import StylyMdm.PushJobs.WellFormed

/-!
# Revisions identify snapshots

A console drops a snapshot whose revision it has already seen, so a snapshot must not change
without a new revision. A snapshot of a job reads more than the job's own rows: the fence of each
of its devices, and for an opaque fence the question which job of the device is the latest. This
module separates the jobs an operation leaves alone (`SameShown`) from those whose revision it
raises, and finds the steps on which a job is neither: `ShownSafe` is the condition that excludes
them.

* `SameShown.snapshot_eq`: a job that is left alone has the same snapshot. Its row, its device
  rows, its artifact and what it shows of fences are what the snapshot depends on.
* `Effect.shown`: every other job gets a larger revision. Writing or clearing a fence raises the
  revisions of the jobs that show it, before or after.
* `RevisionAdvances` is the relation between two moments of a run, reflexive and transitive, so it
  relates any two of them by the rule for runs.

The chief example of what `ShownSafe` excludes is the creation of a job for a device with an opaque
fence: the fence moves from the snapshot of the job that was the latest to the new one, without a
new revision of the former.
-/

namespace StylyMdm.PushJobs

namespace Store

/-! ### Which job shows an opaque fence -/

/-- Taking the maximum commutes with a map. -/
private theorem argmax_map {α β : Type*} (g : α → β) (f : β → Nat) (l : List α) :
    (l.map g).argmax f = (l.argmax (f ∘ g)).map g := by
  induction l with
  | nil => rfl
  | cons a l ih =>
    rw [List.map_cons, List.argmax_cons, List.argmax_cons, ih]
    rcases l.argmax (f ∘ g) with _ | b
    · rfl
    · by_cases h : f (g a) < f (g b) <;> simp [h]

/-- The latest job of a device depends on the places of the rows only. -/
theorem latestJob_eq (s : Store) (d : DeviceId) :
    s.latestJob d = (((s.devices.rows.map place).filter fun p =>
      p.2.1 = d && (s.job? p.1).isSome).argmax (·.2.2.1)).map (·.1) := by
  rw [latestJob, List.filter_map, argmax_map, Option.map_map]
  rfl

theorem latestJob_congr {s s' : Store}
    (hlayout : s'.devices.rows.map place = s.devices.rows.map place)
    (hjobs : ∀ k, (s'.job? k).isSome = (s.job? k).isSome) (d : DeviceId) :
    s'.latestJob d = s.latestJob d := by
  rw [latestJob_eq, latestJob_eq, hlayout]
  simp only [hjobs]

/-- A device with a row of a job has a latest job. -/
theorem latestJob_ne_none {s : Store} {k : JobId} {d : DeviceId} {row : DeviceRow} {job : JobRow}
    (hrow : s.device? k d = some row) (hjob : s.job? k = some job) : s.latestJob d ≠ none := by
  obtain ⟨rfl, rfl⟩ := key_of_device? hrow
  rw [latestJob, Ne, Option.map_eq_none_iff, List.argmax_eq_none]
  refine List.ne_nil_of_mem (List.mem_filter.mpr ⟨mem_devices.mpr hrow, ?_⟩)
  simp [hjob]

theorem deviceFence_congr {s s' : Store} {k : JobId} {d : DeviceId}
    (hfence : s'.fence? d = s.fence? d) (hlatest : s'.latestJob d = s.latestJob d) :
    s'.deviceFence k d = s.deviceFence k d := by
  rw [deviceFence, deviceFence, hfence]
  rcases h : s.fence? d with _ | fence
  · rfl
  · have hshows : s'.showsFence k fence = s.showsFence k fence := by
      rw [showsFence, showsFence, deviceId_of_fence? h, hlatest]
    rw [Option.filter_some, Option.filter_some, hshows]

/-- A fence that is not shown leaves no trace in the snapshot. -/
theorem deviceFence_eq_none {s : Store} {k : JobId} {d : DeviceId}
    (h : ∀ fence, s.fence? d = some fence → s.showsFence k fence = false) :
    s.deviceFence k d = none := by
  rw [deviceFence]
  rcases hf : s.fence? d with _ | fence
  · rfl
  · rw [Option.filter_some, h fence hf]
    rfl

/-! ### Jobs that look the same -/

/-- Job `k` looks the same in both stores. -/
structure SameShown (s s' : Store) (k : JobId) : Prop where
  job : s'.job? k = s.job? k
  rows : s'.jobRows k = s.jobRows k
  artifact : ∀ job, s.job? k = some job →
    s'.artifactSnapshot job.artifactId = s.artifactSnapshot job.artifactId
  fences : ∀ row ∈ s.jobRows k, s'.deviceFence k row.deviceId = s.deviceFence k row.deviceId

/-- A job that looks the same has the same snapshot. -/
theorem SameShown.snapshot_eq {s s' : Store} {k : JobId} (h : SameShown s s' k) :
    s'.snapshot k = s.snapshot k := by
  rw [snapshot, snapshot, h.job]
  rcases hjob : s.job? k with _ | job
  · rfl
  · have hid := jobId_of_job? hjob
    simp only [jobSnapshot, hid, h.rows, h.artifact job hjob]
    congr 2
    refine List.map_congr_left fun row hrow => ?_
    rw [List.mem_insertionSort] at hrow
    rw [h.fences row hrow]

/-- An operation that keeps the places of the rows, the artifacts and the fences of a job's
devices leaves every job it does not write alone. -/
theorem SameShown.of_layout {s s' : Store} {k : JobId} (hjob : s'.job? k = s.job? k)
    (hrows : s'.jobRows k = s.jobRows k) (hartifacts : s'.artifacts = s.artifacts)
    (hlayout : s'.devices.rows.map place = s.devices.rows.map place)
    (hjobs : ∀ k, (s'.job? k).isSome = (s.job? k).isSome)
    (hfences : ∀ row ∈ s.jobRows k, s'.fence? row.deviceId = s.fence? row.deviceId ∨
      (s'.deviceFence k row.deviceId = none ∧ s.deviceFence k row.deviceId = none)) :
    SameShown s s' k where
  job := hjob
  rows := hrows
  artifact job _ := by
    unfold artifactSnapshot
    rw [hartifacts]
  fences row hrow := by
    rcases hfences row hrow with heq | ⟨hnew, hold⟩
    · exact deviceFence_congr heq (latestJob_congr hlayout hjobs _)
    · rw [hnew, hold]

/-! ### Places and revisions along an effect -/

section Effects

variable {now : Millis} {s s' : Store} {op : Op}

/-- A row edit keeps the place of every row it is applied to. -/
theorem RowEdit.place_eq {row : DeviceRow} {f : DeviceRow → DeviceRow} {drop : Bool}
    (edit : RowEdit now s row op f drop) (row' : DeviceRow) : place (f row') = place row' := by
  cases edit <;> rfl

theorem places_updateDevices {p : DeviceRow → Bool} {f : DeviceRow → DeviceRow}
    (hf : ∀ row, (f row).key = row.key) (h : ∀ row, place (f row) = place row) :
    (s.updateDevices p f hf).devices.rows.map place = s.devices.rows.map place := by
  simp only [updateDevices, Table.update, List.map_map]
  refine List.map_congr_left fun row _ => ?_
  by_cases hp : p row
  · simp [hp, h]
  · simp [hp]

theorem isSome_updateJob {j k : JobId} {f : JobRow → JobRow}
    {hf : ∀ job, (f job).jobId = job.jobId} :
    ((s.updateJob j f hf).job? k).isSome = (s.job? k).isSome := by
  rw [job?_updateJob, Option.isSome_map]

theorem isSome_updateJobs {ids : List JobId} {k : JobId} {f : JobRow → JobRow}
    {hf : ∀ job, (f job).jobId = job.jobId} :
    ((s.updateJobs ids f hf).job? k).isSome = (s.job? k).isSome := by
  rw [job?_updateJobs, Option.isSome_map]

theorem JobEdit.revision_lt {job : JobRow} {f : JobRow → JobRow} (edit : JobEdit now job op f) :
    job.revision < (f job).revision := by
  cases edit <;> exact Nat.lt_succ_self _

theorem revision_lt_of_recoverJob {job job' : JobRow} (h : recoverJob now job = some job') :
    job.revision < job'.revision := by
  unfold recoverJob at h
  split at h
  · split at h
    · cases h
      exact Nat.lt_succ_self _
    · exact absurd h (by simp)
  · cases h
    exact Nat.lt_succ_self _
  · cases h
    exact Nat.lt_succ_self _
  · cases h
    exact Nat.lt_succ_self _
  · cases h
    exact Nat.lt_succ_self _
  · exact absurd h (by simp)

/-- A restart writes exactly the active rows. -/
theorem isSome_recoverRow {acceptTimeout timeout : Nat} {row : DeviceRow} :
    (recoverRow now acceptTimeout timeout row).isSome = row.state.isActive := by
  rcases hstate : row.state
  case reconciling =>
    rw [recoverRow, hstate]
    by_cases h : row.acceptedAt.isNone <;> simp [h, DeviceState.isActive]
  all_goals simp [recoverRow, hstate, DeviceState.isActive]

/-! ### The condition on a step -/

/-- The job that shows the fence of a device, as far as there is one, satisfies `P`. -/
def ShownBy (s : Store) (deviceId : DeviceId) (P : JobId → JobRow → Prop) : Prop :=
  ∀ fence k job, s.fence? deviceId = some fence → s.showsFence k fence → s.job? k = some job →
    P k job

/-- The steps on which every snapshot that changes gets a new revision.

* `create_job` must not take an opaque fence away from the job that shows it: no target of the
  new job is opaquely fenced and already has a job.
* `mark_unconfirmed` and `add_opaque_fence` replace the fence of a device; the job that shows the
  old one must be among the jobs they bump, that is, not terminal, or the one that shows the new
  fence.
* `recover_startup_sync` writes every active row; the job of the row must be one it bumps. -/
def ShownSafe (s : Store) (call : Millis × Op) : Prop :=
  match call.2 with
  | .createJob _ request _ _ =>
    ∀ deviceId ∈ request.targetDevices, s.isOpaqueFenced deviceId → s.latestJob deviceId = none
  | .markUnconfirmed jobId deviceId _ _ _ _ =>
    s.ShownBy deviceId fun k job => k = jobId ∨ isNonTerminalValue job.state
  | .addOpaqueFence deviceId identity protocol pid reason =>
    ((s.fence? deviceId).any fun fence => sameOpaqueFence fence
      (opaqueFence call.1 deviceId identity protocol pid reason)) ∨
    s.ShownBy deviceId fun k job => s.latestJob deviceId = some k ∨ isNonTerminalValue job.state
  | .recoverStartupSync _ _ =>
    ∀ k d row job, s.device? k d = some row → row.state.isActive → s.job? k = some job →
      (recoverJob call.1 job).isSome
  | _ => True

/-! ### One step -/

/-- Job `k` has a larger revision in the new store. -/
def Raised (s s' : Store) (k : JobId) : Prop :=
  ∃ job job', s.job? k = some job ∧ s'.job? k = some job' ∧ job.revision < job'.revision

private theorem raised_touched {u : Store} {k : JobId} {job : JobRow} (hs : s.job? k = some job)
    (hu : u.job? k = some job) : Raised s (u.touched k now) k := by
  refine ⟨job, u.touchedJob now job, hs, ?_, ?_⟩
  · rw [touched, job?_updateJob_self, hu]
    rfl
  · rw [touchedJob_revision]
    exact Nat.lt_succ_self _

private theorem shown_row {row : DeviceRow} {f : DeviceRow → DeviceRow} {drop : Bool}
    {hf : ∀ row, (f row).key = row.key} (edit : RowEdit now s row op f drop) {k : JobId}
    {job : JobRow} {u : Store} (hk : s.job? k = some job)
    (hu : u = (s.updateDevice row.jobId row.deviceId f hf).dropFenceIf drop row.deviceId
      row.jobId) :
    SameShown s (u.touched row.jobId now) k ∨ Raised s (u.touched row.jobId now) k := by
  have hjobs : ∀ k, u.job? k = s.job? k := by
    intro k
    rw [hu, job?_dropFenceIf]
    rfl
  have hdevices : u.devices = (s.updateDevice row.jobId row.deviceId f hf).devices := by
    rw [hu, devices_dropFenceIf]
  by_cases h : k = row.jobId
  · subst h
    exact .inr (raised_touched hk ((hjobs _).trans hk))
  · refine .inl (.of_layout ?_ ?_ ?_ ?_ ?_ ?_)
    · rw [touched, job?_updateJob_of_ne h, hjobs]
    · rw [touched, jobRows_updateJob, jobRows, hdevices]
      exact jobRows_updateDevice_of_ne h
    · change u.artifacts = s.artifacts
      rw [hu]
      cases drop <;> rfl
    · change u.devices.rows.map place = _
      rw [hdevices]
      exact places_updateDevices hf edit.place_eq
    · intro k'
      rw [touched, isSome_updateJob, hjobs]
    · intro row' _
      -- a deleted fence was shown by the settled job only
      have hfence : (u.touched row.jobId now).fence? row'.deviceId = s.fence? row'.deviceId ∨
          ((u.touched row.jobId now).fence? row'.deviceId = none ∧
            ∀ fence, s.fence? row'.deviceId = some fence → fence.blocker = .job row.jobId) := by
        rw [touched, fence?_updateJob, hu]
        cases drop with
        | false => exact .inl rfl
        | true =>
          rw [dropFenceIf, if_pos rfl, fence?_deleteJobFence, fence?_updateDevice]
          rcases s.fence? row'.deviceId with _ | fence
          · exact .inl rfl
          · by_cases hb : row'.deviceId = row.deviceId ∧ fence.blocker = .job row.jobId
            · refine .inr ⟨by simp [hb], ?_⟩
              rintro _ ⟨⟩
              exact hb.2
            · left
              rw [Option.filter_some, if_pos (by simpa [imp_iff_not_or] using hb)]
      refine hfence.imp_right ?_
      rintro ⟨hnone, hblocker⟩
      constructor
      · refine deviceFence_eq_none fun fence hf => ?_
        exact absurd (hnone.symm.trans hf) (by simp)
      · refine deviceFence_eq_none fun fence hf => ?_
        rw [showsFence, hblocker fence hf]
        simpa using Ne.symm h

/-- Replacing the fence of one device leaves alone every job that showed neither the old fence
nor shows the new one. -/
private theorem shown_fence {t : Store} {ids : List JobId} (d : DeviceId) {g : JobRow → JobRow}
    {hg : ∀ job, (g job).jobId = job.jobId} {k : JobId} {job : JobRow} (hk : s.job? k = some job)
    (hjobs : ∀ k, t.job? k = s.job? k) (hartifacts : t.artifacts = s.artifacts)
    (hlayout : t.devices.rows.map place = s.devices.rows.map place)
    (hother : ∀ d', d' ≠ d → t.fence? d' = s.fence? d')
    (hraise : ∀ job, job.revision < (g job).revision)
    (hrows : k ∉ ids → t.jobRows k = s.jobRows k)
    (hshow : k ∉ ids → (s.device? k d).isSome →
      (∀ fence, s.fence? d = some fence → s.showsFence k fence = false) ∧
      ∀ fence, t.fence? d = some fence → t.showsFence k fence = false) :
    SameShown s (t.updateJobs ids g hg) k ∨ Raised s (t.updateJobs ids g hg) k := by
  have htk := (hjobs k).trans hk
  by_cases hmem : k ∈ ids
  · exact .inr ⟨job, g job, hk, job?_updateJobs_of_mem htk hmem, hraise job⟩
  · refine .inl (.of_layout ?_ (hrows hmem) hartifacts hlayout ?_ ?_)
    · rw [job?_updateJobs_of_notMem hmem, hjobs]
    · intro k'
      rw [isSome_updateJobs, hjobs]
    · intro row hrow
      by_cases hd : row.deviceId = d
      · have hrow := mem_jobRows.mp hrow
        rw [hd] at hrow ⊢
        obtain ⟨hold, hnew⟩ := hshow hmem (by simp [hrow])
        refine .inr ⟨deviceFence_eq_none fun fence hf => ?_, deviceFence_eq_none hold⟩
        have hlatest : (t.updateJobs ids g hg).latestJob fence.deviceId =
            t.latestJob fence.deviceId := by
          refine latestJob_congr ?_ (fun _ => isSome_updateJobs) _
          rfl
        have := hnew fence hf
        rw [showsFence] at this ⊢
        rw [hlatest]
        exact this
      · exact .inl (hother _ hd)

/-- A non-terminal job that targets the device is bumped by every change of its fence. -/
private theorem mem_visible_of_nonTerminal {t : Store} {d : DeviceId} {blocking : Option JobId}
    {k : JobId} {job : JobRow} (hjob : t.job? k = some job) (hstate : isNonTerminalValue job.state)
    (hrow : (t.device? k d).isSome) : k ∈ t.visibleJobIds d blocking :=
  mem_visibleJobIds.mpr (.inl (mem_fenceVisibleJobIds.mpr ⟨job, hjob, hstate, hrow⟩))

/-- The latest job of an opaquely fenced device is bumped by every change of its fence. -/
private theorem mem_visible_of_latest {t : Store} {d : DeviceId} {blocking : Option JobId}
    {k : JobId} {fence : FenceRow} {identity : OpaqueIdentity} (hfence : t.fence? d = some fence)
    (hblocker : fence.blocker = .unknown identity) (hlatest : t.latestJob d = some k) :
    k ∈ t.visibleJobIds d blocking := by
  refine mem_visibleJobIds.mpr (.inr (.inr ⟨?_, hlatest⟩))
  simp [isOpaqueFenced, hfence, FenceRow.blockingOpaqueIdentity, hblocker]

private theorem shown_unconfirm {row : DeviceRow} {pid : Option String} {detail : String}
    {timestamp : Millis} {t : Store} {k : JobId} {job : JobRow} (hwf : WellFormed s)
    (hrow : s.device? row.jobId row.deviceId = some row)
    (ht : t = (s.updateDevice row.jobId row.deviceId (unconfirmedRow timestamp detail)).upsertFence
      (jobFence timestamp row.jobId row.deviceId row.protocolMode pid detail))
    (hsafe : s.ShownBy row.deviceId fun k job => k = row.jobId ∨ isNonTerminalValue job.state)
    (hk : s.job? k = some job) :
    SameShown s (t.updateJobs (t.visibleJobIds row.deviceId (some row.jobId))
      (t.touchedJob timestamp) (t.touchedJob_jobId timestamp)) k ∨
    Raised s (t.updateJobs (t.visibleJobIds row.deviceId (some row.jobId))
      (t.touchedJob timestamp) (t.touchedJob_jobId timestamp)) k := by
  have hjobs : ∀ k, t.job? k = s.job? k := fun k => by rw [ht]; rfl
  have hfence : ∀ d, t.fence? d = if d = row.deviceId then
      some ((s.updateDevice row.jobId row.deviceId (unconfirmedRow timestamp detail)).upsertedFence
        (jobFence timestamp row.jobId row.deviceId row.protocolMode pid detail))
      else s.fence? d := fun d => by
    rw [ht, fence?_upsertFence]
    rfl
  have hdev : ∀ k d, (t.device? k d).isSome = (s.device? k d).isSome := by
    intro k d
    have hlook : t.device? k d = (s.updateDevice row.jobId row.deviceId
        (unconfirmedRow timestamp detail)).device? k d := by
      rw [ht]
      rfl
    rw [hlook, device?_updateDevice, Option.isSome_map]
  -- the job itself is bumped
  have hself : row.jobId ∈ t.visibleJobIds row.deviceId (some row.jobId) := by
    obtain ⟨job, hjob⟩ := hwf.jobOfRow hrow
    exact mem_visibleJobIds.mpr (.inr (.inl ⟨rfl, by simp [hjobs, hjob]⟩))
  refine shown_fence row.deviceId hk hjobs (by rw [ht]; rfl) ?_ ?_ ?_ ?_ ?_
  · rw [ht]
    have hkey : ∀ r, (unconfirmedRow timestamp detail r).key = r.key := fun _ => rfl
    exact places_updateDevices hkey fun _ => rfl
  · intro d hd
    rw [hfence, if_neg hd]
  · intro job
    rw [touchedJob_revision]
    exact Nat.lt_succ_self _
  · intro hmem
    have hne : k ≠ row.jobId := by
      rintro rfl
      exact hmem hself
    have hlook : (s.updateDevice row.jobId row.deviceId
        (unconfirmedRow timestamp detail)).jobRows k = s.jobRows k :=
      jobRows_updateDevice_of_ne hne
    rw [ht]
    exact hlook
  · intro hmem hsome
    refine ⟨fun fence hf => ?_, fun fence hf => ?_⟩
    · by_contra hshows
      rcases hsafe fence k job hf (by simpa using hshows) hk with rfl | hstate
      · exact hmem hself
      · refine hmem (mem_visible_of_nonTerminal ((hjobs k).trans hk) hstate ?_)
        rw [hdev]
        exact hsome
    · rw [hfence, if_pos rfl, Option.some.injEq] at hf
      subst hf
      have hne : row.jobId ≠ k := by
        rintro rfl
        exact hmem hself
      simpa [showsFence, upsertedFence, jobFence] using hne

private theorem shown_fenceUnknown {d : DeviceId} {identity : OpaqueIdentity}
    {protocol : ProtocolMode} {pid : Option String} {reason : String} {t : Store} {k : JobId}
    {job : JobRow} (ht : t = s.upsertFence (opaqueFence now d identity protocol pid reason))
    (hsafe : s.ShownBy d fun k job => s.latestJob d = some k ∨ isNonTerminalValue job.state)
    (hk : s.job? k = some job) :
    SameShown s (t.updateJobs (t.visibleJobIds d) (bumpedJob now) (bumpedJob_jobId now)) k ∨
    Raised s (t.updateJobs (t.visibleJobIds d) (bumpedJob now) (bumpedJob_jobId now)) k := by
  have hjobs : ∀ k, t.job? k = s.job? k := fun k => by rw [ht]; rfl
  have hfence : ∀ d', t.fence? d' = if d' = d then
      some (s.upsertedFence (opaqueFence now d identity protocol pid reason))
      else s.fence? d' := fun d' => by
    rw [ht, fence?_upsertFence]
    rfl
  have hlatest : t.latestJob d = s.latestJob d := by
    refine latestJob_congr ?_ (fun k => by rw [hjobs]) d
    rw [ht]
    rfl
  -- the device is opaquely fenced now, so its latest job is bumped
  have hmemLatest : t.latestJob d = some k → k ∈ t.visibleJobIds d := by
    intro h
    have hself : t.fence? d =
        some (s.upsertedFence (opaqueFence now d identity protocol pid reason)) := by
      rw [hfence, if_pos rfl]
    exact mem_visible_of_latest hself rfl h
  refine shown_fence d hk hjobs (by rw [ht]; rfl) (by rw [ht]; rfl) ?_ ?_ ?_ ?_
  · intro d' hd'
    rw [hfence, if_neg hd']
  · intro job
    exact Nat.lt_succ_self _
  · intro _
    rw [ht]
    rfl
  · intro hmem hsome
    refine ⟨fun fence hf => ?_, fun fence hf => ?_⟩
    · by_contra hshows
      rcases hsafe fence k job hf (by simpa using hshows) hk with hl | hstate
      · exact hmem (hmemLatest (hlatest.trans hl))
      · refine hmem (mem_visible_of_nonTerminal ((hjobs k).trans hk) hstate ?_)
        rw [ht]
        exact hsome
    · by_contra hshows
      rw [hfence, if_pos rfl, Option.some.injEq] at hf
      subst hf
      rw [Bool.not_eq_false] at hshows
      exact hmem (hmemLatest (of_decide_eq_true hshows))

private theorem shown_create {jobId : JobId} {request : CanonicalCreateRequest} {timeout : Nat}
    {jobs : Table JobRow.jobId} {devices : Table DeviceRow.key} {rows : List DeviceRow}
    (hwf : WellFormed s) (hnew : s.job? jobId = none)
    (hjobs : jobs.rows = s.jobs.rows ++ [newJobRow now jobId request timeout])
    (hrows : TargetRows now jobId s.nextEnqueueSeq 0 request.targetDevices rows)
    (hdevices : devices.rows = s.devices.rows ++ rows)
    (hsafe : ∀ deviceId ∈ request.targetDevices, s.isOpaqueFenced deviceId →
      s.latestJob deviceId = none) {k : JobId} {job : JobRow} (hk : s.job? k = some job) :
    SameShown s { s with
      jobs, devices, nextEnqueueSeq := s.nextEnqueueSeq + request.targetDevices.length } k := by
  have hne : k ≠ jobId := by
    rintro rfl
    exact absurd (hnew.symm.trans hk) (by simp)
  have hnew' : s.job? (newJobRow now jobId request timeout).jobId = none := hnew
  have hjob : ∀ {k}, Store.job? { s with
      jobs, devices, nextEnqueueSeq := s.nextEnqueueSeq + request.targetDevices.length } k =
      if k = jobId then some (newJobRow now jobId request timeout) else s.job? k :=
    job?_append hnew' hjobs
  refine ⟨by rw [hjob, if_neg hne], ?_, fun _ _ => rfl, ?_⟩
  · have hnone : rows.filter (fun row => row.jobId = k) = [] := by
      refine List.filter_eq_nil_iff.mpr fun row hrow => ?_
      obtain ⟨i, d, protocol, capabilities, rfl⟩ := hrows.fresh row hrow
      exact Bool.not_eq_true _ ▸ decide_eq_false (Ne.symm hne)
    simp only [jobRows, hdevices, List.filter_append, hnone, List.append_nil]
  · intro row hrow
    have hrow := mem_jobRows.mp hrow
    rcases hf : s.fence? row.deviceId with _ | fence
    · rw [deviceFence_eq_none, deviceFence_eq_none]
      all_goals
        intro fence hfence
        exact absurd (hf.symm.trans hfence) (by simp)
    · rcases hb : fence.blocker with blocking | identity
      · -- a job fence does not ask for the latest job
        simp only [deviceFence, fence?] at hf ⊢
        rw [hf, Option.filter_some, Option.filter_some, showsFence, showsFence, hb]
      · have hunknown : s.isOpaqueFenced row.deviceId := by
          simp [isOpaqueFenced, hf, FenceRow.blockingOpaqueIdentity, hb]
        have hout : row.deviceId ∉ request.targetDevices := fun hin =>
          latestJob_ne_none hrow hk (hsafe _ hin hunknown)
        refine deviceFence_congr rfl ?_
        have hnone : rows.filter (fun r => r.deviceId = row.deviceId &&
            (Store.job? { s with
              jobs, devices, nextEnqueueSeq := s.nextEnqueueSeq + request.targetDevices.length }
              r.jobId).isSome) = [] := by
          refine List.filter_eq_nil_iff.mpr fun r hr => ?_
          have hmem : r.deviceId ∈ request.targetDevices :=
            hrows.devices ▸ List.mem_map_of_mem hr
          have : r.deviceId ≠ row.deviceId := fun heq => hout (heq ▸ hmem)
          simp [this]
        have hold : s.devices.rows.filter (fun r => r.deviceId = row.deviceId &&
            (Store.job? { s with
              jobs, devices, nextEnqueueSeq := s.nextEnqueueSeq + request.targetDevices.length }
              r.jobId).isSome) = s.devices.rows.filter (fun r => r.deviceId = row.deviceId &&
              (s.job? r.jobId).isSome) := by
          refine List.filter_congr fun r hr => ?_
          obtain ⟨job', hjob'⟩ := hwf.jobOfRow (mem_devices.mp hr)
          have hr' : r.jobId ≠ jobId := by
            intro heq
            rw [heq, hnew] at hjob'
            exact absurd hjob' (by simp)
          rw [hjob, if_neg hr']
        simp only [latestJob, hdevices, List.filter_append, hnone, hold, List.append_nil]

private theorem shown_recover {acceptTimeout timeout : Nat} {t : Store}
    (ht : t = s.recoverRows now acceptTimeout timeout)
    (hsafe : ∀ k d row job, s.device? k d = some row → row.state.isActive → s.job? k = some job →
      (recoverJob now job).isSome) {k : JobId} {job : JobRow} (hk : s.job? k = some job) :
    SameShown s (t.updateJobs (s.recoveryTouched now acceptTimeout timeout) (t.rederived now)
      (t.rederived_jobId now)) k ∨
    Raised s (t.updateJobs (s.recoveryTouched now acceptTimeout timeout) (t.rederived now)
      (t.rederived_jobId now)) k := by
  have htk : ∀ k, t.job? k = (s.job? k).map fun job => (recoverJob now job).getD job := by
    intro k
    rw [ht, job?_recoverRows]
  rcases hrec : recoverJob now job with _ | job'
  · -- an untouched job has no active row
    have hrow : ∀ d row, s.device? k d = some row → row.state.isActive = false := by
      intro d row hrow
      by_contra hactive
      have := hsafe k d row job hrow (by simpa using hactive) hk
      rw [hrec] at this
      exact absurd this (by simp)
    have hout : k ∉ s.recoveryTouched now acceptTimeout timeout := by
      rw [mem_recoveryTouched]
      rintro (⟨job', hjob', hsome⟩ | ⟨d, row, hdev, hsome⟩)
      · rw [hk, Option.some.injEq] at hjob'
        rw [← hjob', hrec] at hsome
        exact absurd hsome (by simp)
      · rw [isSome_recoverRow, hrow d row hdev] at hsome
        exact absurd hsome (by simp)
    refine .inl (.of_layout ?_ ?_ ?_ ?_ ?_ ?_)
    · rw [job?_updateJobs_of_notMem hout, htk, hk, Option.map_some, hrec]
      rfl
    · change t.jobRows k = _
      rw [ht]
      change (s.updateDevices (fun _ => true) _ _).jobRows k = _
      rw [jobRows_updateDevices]
      refine (List.map_congr_left fun row hmem => ?_).trans (List.map_id _)
      have hinactive : (recoverRow now acceptTimeout timeout row).isSome = false :=
        isSome_recoverRow.trans (hrow _ row (mem_jobRows.mp hmem))
      rw [Option.isSome_eq_false_iff, Option.isNone_iff_eq_none] at hinactive
      simp [hinactive]
    · rw [ht]
      rfl
    · rw [ht]
      refine places_updateDevices (recoverRow_key now acceptTimeout timeout) fun row => ?_
      have hchange : RowChange now s row (.recoverStartupSync acceptTimeout timeout)
          ((recoverRow now acceptTimeout timeout row).getD row) := .recovered
      exact hchange.place_eq
    · intro k'
      rw [isSome_updateJobs, htk, Option.isSome_map]
    · intro row _
      left
      rw [ht]
      rfl
  · have hin : k ∈ s.recoveryTouched now acceptTimeout timeout :=
      mem_recoveryTouched.mpr (.inl ⟨job, hk, by simp [hrec]⟩)
    refine .inr ⟨job, t.rederived now job', hk, job?_updateJobs_of_mem ?_ hin, ?_⟩
    · rw [htk, hk, Option.map_some, hrec]
      rfl
    · rw [rederived, rederivedJob_revision]
      exact revision_lt_of_recoverJob hrec

/-- **What one step does to a job.** On a step that meets `ShownSafe`, every job looks the same
afterwards or has a larger revision. -/
theorem Effect.shown (hwf : WellFormed s) (hsafe : ShownSafe s (now, op))
    (e : Effect now s op s') {k : JobId} {job : JobRow} (hk : s.job? k = some job) :
    SameShown s s' k ∨ Raised s s' k := by
  cases e with
  | same => exact .inl ⟨rfl, rfl, fun _ _ => rfl, fun _ _ => rfl⟩
  | job hjob edit =>
    rename_i job₀ f hf
    by_cases h : k = job₀.jobId
    · subst h
      rw [hjob, Option.some.injEq] at hk
      subst hk
      refine .inr ⟨job₀, f job₀, hjob, ?_, edit.revision_lt⟩
      rw [job?_updateJob_self, hjob]
      rfl
    · exact .inl (.of_layout (job?_updateJob_of_ne h) rfl rfl rfl (fun _ => isSome_updateJob)
        fun _ _ => .inl rfl)
  | publish hjob hstate hnew hrows =>
    rename_i job₀ artifact artifacts
    by_cases h : k = job₀.jobId
    · subst h
      refine .inr ⟨job, artifactReady now artifact.artifactId job, hk, ?_, Nat.lt_succ_self _⟩
      rw [job?_updateJob_self]
      exact congrArg _ hk
    · refine .inl ⟨job?_updateJob_of_ne h, rfl, fun job' hjob' => ?_, fun row _ => ?_⟩
      · -- the artifact of another job was in the table before
        unfold artifactSnapshot
        rcases hid : job'.artifactId with _ | id
        · rfl
        · obtain ⟨a, ha⟩ := hwf.artifactOfJob hjob' hid
          have hne : id ≠ artifact.artifactId := by
            rintro rfl
            exact absurd (hnew.symm.trans ha) (by simp)
          have hfind : artifacts.find? id = s.artifacts.find? id :=
            (Table.find?_append hnew hrows id).trans (if_neg hne)
          change (if id = "" then none else _) = if id = "" then none else _
          simp only [updateJob, hfind]
      · refine deviceFence_congr rfl (latestJob_congr ?_ (fun k' => ?_) _)
        · rfl
        · rw [isSome_updateJob]
          rfl
  | row hrow edit => exact shown_row edit hk rfl
  | unconfirm hrow hstate ht hdue => exact shown_unconfirm hwf hrow ht hsafe hk
  | fenceUnknown hnew ht =>
    refine shown_fenceUnknown ht (hsafe.resolve_left fun hany => ?_) hk
    rw [Option.any_eq_true] at hany
    obtain ⟨fence, hfence, hsame⟩ := hany
    exact hnew fence hfence hsame
  | clear hfence hclear hids =>
    rename_i fence ids
    refine shown_fence fence.deviceId hk (fun _ => rfl) rfl rfl ?_ (fun _ => Nat.lt_succ_self _)
      (fun _ => rfl) ?_
    · intro d hd
      rw [fence?_deleteFence, if_neg hd]
    · intro hmem hsome
      refine ⟨fun fence' hf => ?_, fun fence' hf => ?_⟩
      · rw [hfence, Option.some.injEq] at hf
        subst hf
        by_contra hshows
        exact hmem (hids k job hk hsome (by simpa using hshows))
      · rw [fence?_deleteFence, if_pos rfl] at hf
        exact absurd hf (by simp)
  | create hnew hrequest hjobs hrows hdevices =>
    exact .inl (shown_create hwf hnew hjobs hrows hdevices hsafe hk)
  | recover ht => exact shown_recover ht hsafe hk
  | artifactsFailed h =>
    rename_i isFile
    by_cases hmem : k ∈ (s.missingArtifacts isFile).map (·.1.jobId)
    · obtain ⟨⟨job₀, storageName⟩, hentry, rfl⟩ := List.mem_map.mp hmem
      rw [(mem_missingArtifacts hentry).1, Option.some.injEq] at hk
      subst hk
      by_cases hready : job₀.state = .ready
      · exact .inr ⟨_, _, (mem_missingArtifacts hentry).1, (h.ready _ hentry hready).1,
          Nat.lt_succ_self _⟩
      · refine .inr ⟨_, _, (mem_missingArtifacts hentry).1, (h.dispatched _ hentry hready).1, ?_⟩
        rw [touchedJob_revision]
        exact Nat.lt_succ_self _
    · obtain ⟨hjob, hrows⟩ := h.other k hmem
      refine .inl (.of_layout hjob hrows h.artifacts h.layout (fun k' => ?_) fun row _ => .inl ?_)
      · by_cases hmem' : k' ∈ (s.missingArtifacts isFile).map (·.1.jobId)
        · obtain ⟨entry, hentry, rfl⟩ := List.mem_map.mp hmem'
          rw [(mem_missingArtifacts hentry).1]
          by_cases hready : entry.1.state = .ready
          · rw [(h.ready _ hentry hready).1]
            rfl
          · rw [(h.dispatched _ hentry hready).1]
            rfl
        · rw [(h.other k' hmem').1]
      · rw [fence?, h.fences]
        rfl

end Effects

/-! ### Runs -/

/-- The snapshots of `s'` compared with those of the earlier store `s`: every job is still
there, its revision has not decreased, and if its snapshot differs the revision is larger. -/
def RevisionAdvances (s s' : Store) : Prop :=
  ∀ k shown, s.snapshot k = .ok shown → ∃ shown', s'.snapshot k = .ok shown' ∧
    shown.revision ≤ shown'.revision ∧ (shown' ≠ shown → shown.revision < shown'.revision)

theorem RevisionAdvances.refl (s : Store) : RevisionAdvances s s :=
  fun _ shown h => ⟨shown, h, le_rfl, fun hne => absurd rfl hne⟩

theorem RevisionAdvances.trans {s t u : Store} (h : RevisionAdvances s t)
    (h' : RevisionAdvances t u) : RevisionAdvances s u := by
  intro k shown hs
  obtain ⟨shown', ht, hle, hlt⟩ := h k shown hs
  obtain ⟨shown'', hu, hle', hlt'⟩ := h' k shown' ht
  refine ⟨shown'', hu, hle.trans hle', fun hne => ?_⟩
  by_cases heq : shown' = shown
  · exact heq ▸ hlt' (heq ▸ hne)
  · exact (hlt heq).trans_le hle'

/-- One safe step advances the revisions. -/
theorem RevisionAdvances.step {s : Store} (hwf : WellFormed s) (indexed : Bool)
    {call : Millis × Op} (hsafe : ShownSafe s call) :
    RevisionAdvances s (s.step indexed call) := by
  intro k shown hs
  unfold snapshot at hs
  split at hs
  · exact absurd hs (by simp)
  · rename_i job hjob
    cases hs
    rcases (step_effect indexed s call).shown hwf hsafe hjob with hsame | hraised
    · refine ⟨s.jobSnapshot job, ?_, le_rfl, fun hne => absurd rfl hne⟩
      rw [hsame.snapshot_eq, snapshot, hjob]
    · obtain ⟨job₀, job', hjob₀, hjob', hlt⟩ := hraised
      rw [hjob, Option.some.injEq] at hjob₀
      subst hjob₀
      refine ⟨(s.step indexed call).jobSnapshot job', ?_, hlt.le, fun _ => hlt⟩
      rw [snapshot, hjob']

/-- Equal revisions, equal snapshots. -/
theorem RevisionAdvances.eq_of_revision {s s' : Store} (h : RevisionAdvances s s') {k : JobId}
    {shown shown' : JobSnapshot} (hs : s.snapshot k = .ok shown) (hs' : s'.snapshot k = .ok shown')
    (hrev : shown'.revision = shown.revision) : shown' = shown := by
  obtain ⟨shown'', hs'', -, hlt⟩ := h k shown hs
  rw [hs', Except.ok.injEq] at hs''
  subst hs''
  by_contra hne
  exact absurd (hlt hne) (by rw [hrev]; exact lt_irrefl _)

/-- Revisions advance along every run of safe steps. -/
theorem RevisionAdvances.exec {indexed : Bool} {s : Store} {calls : List (Millis × Op)}
    (hwf : WellFormed s) (hsafe : Run.Along (Store.step indexed) ShownSafe s calls) :
    RevisionAdvances s (s.exec indexed calls) := by
  have hsafe := hsafe.strengthen (I := WellFormed) (fun s call hs _ => hs.step indexed call) hwf
  exact hsafe.relates .refl (fun _ _ _ => .trans) fun s call h => .step h.1 indexed h.2

/-- **A revision identifies a snapshot.** In every run from the empty store whose steps all meet
`ShownSafe`: each step advances the revisions, for every job of the store; and two snapshots of
one job taken at any two moments of the run are equal as soon as their revisions are. -/
theorem revision_identifies_snapshot (indexed : Bool) (calls : List (Millis × Op))
    (hsafe : Run.Along (step indexed) ShownSafe initial calls) :
    (∀ before call after, calls = before ++ call :: after →
      RevisionAdvances (exec indexed initial before) (exec indexed initial (before ++ [call]))) ∧
    ∀ before between after k shown shown', calls = before ++ (between ++ after) →
      (exec indexed initial before).snapshot k = .ok shown →
      (exec indexed initial (before ++ between)).snapshot k = .ok shown' →
      shown'.revision = shown.revision → shown' = shown := by
  have hpart : ∀ before between after, calls = before ++ (between ++ after) →
      RevisionAdvances (exec indexed initial before)
        (exec indexed initial (before ++ between)) := by
    intro before between after hcalls
    rw [hcalls, Run.along_append, Run.along_append] at hsafe
    rw [exec, exec, Run.exec_append]
    exact .exec (Reachable.wellFormed ⟨before, rfl⟩) hsafe.2.1
  refine ⟨fun before call after hcalls => hpart before [call] after (by simpa using hcalls), ?_⟩
  intro before between after k shown shown' hcalls hs hs' hrev
  exact (hpart before between after hcalls).eq_of_revision hs hs' hrev

/-- A job is created for a device, which then reports an execution the server does not know. -/
private def fencedDevice : List (Millis × Op) :=
  [(10, .createJob "job-1" (pushRequest "request-1" "quest-1") jobV1Protocols 1000),
   (20, .addOpaqueFence "quest-1" (.token "\x7b\"token\":\"unknown-active-job\"\x7d") .jobV1 none
     "unknown active execution")]

/-- The condition is met by this run, and its two snapshots of the job differ in revision. -/
theorem revision_identifies_snapshot_fenced :
    Run.Along (step true) ShownSafe initial fencedDevice ∧
    RevisionAdvances (exec true initial (fencedDevice.take 1))
      (exec true initial (fencedDevice.take 1 ++ [fencedDevice[1]])) := by
  have hsafe : Run.Along (step true) ShownSafe initial fencedDevice := by
    refine ⟨?_, ?_, trivial⟩
    · intro deviceId _ hfenced
      exact absurd hfenced (by simp [isOpaqueFenced, fence?, initial])
    · refine .inr fun fence k job hfence => ?_
      exact absurd hfence (by
        rw [show (step true initial (10, .createJob "job-1" (pushRequest "request-1" "quest-1")
          jobV1Protocols 1000)).fence? "quest-1" = none by decide +kernel]
        simp)
  exact ⟨hsafe, (revision_identifies_snapshot true fencedDevice hsafe).1 _ _ [] rfl⟩

/-- Creating a second job for a device that is fenced for an unknown execution takes the fence
out of the first job's snapshot and leaves its revision alone. -/
theorem revision_missed_by_create :
    ¬ ∀ indexed calls call, RevisionAdvances (exec indexed initial calls)
      (exec indexed initial (calls ++ [call])) := by
  intro h
  have hadv := h true fencedDevice
    (30, .createJob "job-2" (pushRequest "request-2" "quest-1") jobV1Protocols 1000)
  have hrev : ((exec true initial fencedDevice).snapshot "job-1").toOption.map
        JobSnapshot.revision =
      ((exec true initial (fencedDevice ++ [(30, .createJob "job-2"
        (pushRequest "request-2" "quest-1") jobV1Protocols 1000)])).snapshot
          "job-1").toOption.map JobSnapshot.revision := by
    decide +kernel
  have hne : ((exec true initial fencedDevice).snapshot "job-1").toOption ≠
      ((exec true initial (fencedDevice ++ [(30, .createJob "job-2"
        (pushRequest "request-2" "quest-1") jobV1Protocols 1000)])).snapshot
          "job-1").toOption := by
    decide +kernel
  have hsome : ((exec true initial fencedDevice).snapshot "job-1").toOption.isSome := by
    decide +kernel
  rcases hs : (exec true initial fencedDevice).snapshot "job-1" with e | shown
  · rw [hs] at hsome
    exact absurd hsome (by simp [Except.toOption])
  · obtain ⟨shown', hs', -, -⟩ := hadv _ _ hs
    rw [hs, hs'] at hrev hne
    simp only [Except.toOption, Option.map_some, Option.some.injEq] at hrev
    exact hne (congrArg some (hadv.eq_of_revision hs hs' hrev.symm).symm)

end Store

end StylyMdm.PushJobs
