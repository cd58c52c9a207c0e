import StylyMdm.PushJobs.Manager

/-!
# What the store primitives do

Lookup equations for the primitive updates, and closed forms for the helpers that loop or can
fail: a successful `_rederive_job` rewrites one job row with the pure function `rederivedJob`,
the closing `touchJob` of a row transaction is the single update `touched`, and the loops over
`visibleJobIds` update exactly the listed jobs. The transactions are characterised from these
equations, so later proofs do not unfold them again.

The first section is the simp set for lookups: a job, a row or a fence after an update of a job,
of rows, or of a fence. The second says that what is derived for a job depends on the rows of this
job only, so loops over jobs can be taken in any order. The last one describes `visibleJobIds`, the
jobs whose snapshots show the fence of a device: those that are not terminal, the one that blocks,
and for an opaque fence the latest one.
-/

namespace StylyMdm.PushJobs

namespace Store

/-! ### Lookups after primitive updates -/

section Lookups

variable {s : Store} {jobId k : JobId} {deviceId d : DeviceId}

theorem job?_updateJob {f : JobRow → JobRow} {hf : ∀ job, (f job).jobId = job.jobId} :
    (s.updateJob jobId f hf).job? k =
      (s.job? k).map fun job => if k = jobId then f job else job := by
  rw [job?, updateJob, Table.find?_update]
  rcases h : s.jobs.find? k with _ | job
  · simp [job?, h]
  · simp [job?, h, Table.key_of_find? h]

theorem job?_updateJob_self {f : JobRow → JobRow} {hf : ∀ job, (f job).jobId = job.jobId} :
    (s.updateJob jobId f hf).job? jobId = (s.job? jobId).map f := by
  simp [job?_updateJob]

theorem job?_updateJob_of_ne {f : JobRow → JobRow} {hf : ∀ job, (f job).jobId = job.jobId}
    (h : k ≠ jobId) : (s.updateJob jobId f hf).job? k = s.job? k := by
  simp [job?_updateJob, h]

@[simp] theorem device?_updateJob {f : JobRow → JobRow} {hf : ∀ job, (f job).jobId = job.jobId} :
    (s.updateJob jobId f hf).device? k d = s.device? k d := rfl

@[simp] theorem jobRows_updateJob {f : JobRow → JobRow} {hf : ∀ job, (f job).jobId = job.jobId} :
    (s.updateJob jobId f hf).jobRows k = s.jobRows k := rfl

@[simp] theorem fence?_updateJob {f : JobRow → JobRow} {hf : ∀ job, (f job).jobId = job.jobId} :
    (s.updateJob jobId f hf).fence? d = s.fence? d := rfl

theorem device?_updateDevices {p : DeviceRow → Bool} {f : DeviceRow → DeviceRow}
    {hf : ∀ row, (f row).key = row.key} :
    (s.updateDevices p f hf).device? k d =
      (s.device? k d).map fun row => if p row then f row else row := by
  rw [device?, updateDevices, Table.find?_update]
  rfl

theorem device?_updateDevice {f : DeviceRow → DeviceRow} {hf : ∀ row, (f row).key = row.key} :
    (s.updateDevice jobId deviceId f hf).device? k d =
      (s.device? k d).map fun row => if (k, d) = (jobId, deviceId) then f row else row := by
  rw [updateDevice, device?_updateDevices]
  rcases h : s.device? k d with _ | row
  · rfl
  · have hkey : row.key = (k, d) := Table.key_of_find? h
    simp [hkey]

@[simp] theorem job?_updateDevices {p : DeviceRow → Bool} {f : DeviceRow → DeviceRow}
    {hf : ∀ row, (f row).key = row.key} : (s.updateDevices p f hf).job? k = s.job? k := rfl

@[simp] theorem job?_updateDevice {f : DeviceRow → DeviceRow} {hf : ∀ row, (f row).key = row.key} :
    (s.updateDevice jobId deviceId f hf).job? k = s.job? k := rfl

@[simp] theorem fence?_updateDevice {f : DeviceRow → DeviceRow}
    {hf : ∀ row, (f row).key = row.key} :
    (s.updateDevice jobId deviceId f hf).fence? d = s.fence? d := rfl

theorem fence?_deleteFence :
    (s.deleteFence deviceId).fence? d = if d = deviceId then none else s.fence? d := by
  rw [fence?, deleteFence, Table.find?_delete]
  rcases h : s.fences.find? d with _ | fence
  · simp [fence?, h]
  · have hkey : fence.deviceId = d := Table.key_of_find? h
    by_cases hd : d = deviceId <;> simp [fence?, h, hkey, hd]

theorem fence?_deleteJobFence :
    (s.deleteJobFence deviceId jobId).fence? d =
      (s.fence? d).filter fun fence => !(d = deviceId && fence.blocker = .job jobId) := by
  rw [fence?, deleteJobFence, Table.find?_delete]
  rcases h : s.fences.find? d with _ | fence
  · simp [fence?, h]
  · have hkey : fence.deviceId = d := Table.key_of_find? h
    simp only [fence?, h, Option.filter_some, hkey]

theorem deviceId_of_fence? {fence : FenceRow} (h : s.fence? d = some fence) :
    fence.deviceId = d := Table.key_of_find? h

/-- The fence an upsert leaves: the new one, with the `created_at` of the one it replaces. -/
def upsertedFence (s : Store) (fence : FenceRow) : FenceRow :=
  { fence with
    createdAt := ((s.fence? fence.deviceId).map FenceRow.createdAt).getD fence.createdAt }

theorem fence?_upsertFence {fence : FenceRow} :
    (s.upsertFence fence).fence? d =
      if d = fence.deviceId then some (s.upsertedFence fence) else s.fence? d := by
  rw [fence?, upsertFence, Table.find?_upsert]
  by_cases hd : d = fence.deviceId
  · rw [if_pos hd, if_pos hd, hd, upsertedFence]
    change some (((s.fence? fence.deviceId).map _).getD fence) = _
    rcases h : s.fence? fence.deviceId with _ | old
    · rfl
    · simp [deviceId_of_fence? h]
  · rw [if_neg hd, if_neg hd]
    rfl

theorem jobId_of_job? {job : JobRow} (h : s.job? k = some job) : job.jobId = k :=
  Table.key_of_find? h

theorem key_of_device? {row : DeviceRow} (h : s.device? k d = some row) :
    row.jobId = k ∧ row.deviceId = d := by
  have hkey : row.key = (k, d) := Table.key_of_find? h
  simpa [DeviceRow.key] using hkey

/-- The rows of a job are the rows found under its id. -/
theorem mem_jobRows {row : DeviceRow} :
    row ∈ s.jobRows k ↔ s.device? k row.deviceId = some row := by
  simp only [jobRows, List.mem_filter, decide_eq_true_eq, device?, Table.find?_eq_some,
    DeviceRow.key, Table.mem_def, Prod.mk.injEq, and_true]

theorem mem_devices {row : DeviceRow} :
    row ∈ s.devices.rows ↔ s.device? row.jobId row.deviceId = some row := by
  simp only [device?, Table.find?_eq_some, DeviceRow.key, Table.mem_def, and_true]

theorem mem_jobs {job : JobRow} : job ∈ s.jobs.rows ↔ s.job? job.jobId = some job := by
  simp only [job?, Table.find?_eq_some, Table.mem_def, and_true]

theorem job?_append {t : Store} {job : JobRow} (hnew : s.job? job.jobId = none)
    (h : t.jobs.rows = s.jobs.rows ++ [job]) :
    t.job? k = if k = job.jobId then some job else s.job? k := Table.find?_append hnew h k

/-- After rows are appended, a lookup finds the old row, or one of the new ones. -/
theorem device?_append {t : Store} {rows : List DeviceRow} {row : DeviceRow}
    (h : t.devices.rows = s.devices.rows ++ rows) :
    t.device? k d = some row ↔ s.device? k d = some row ∨ (row ∈ rows ∧ row.key = (k, d)) := by
  simp only [device?, Table.find?_eq_some, Table.mem_def, h, List.mem_append, or_and_right]

end Lookups

/-! ### Two stores with the same lookups in a job -/

/-- The rows of a job after an update of the device table that maps each row. -/
theorem jobRows_updateDevices {s : Store} {p : DeviceRow → Bool} {f : DeviceRow → DeviceRow}
    {hf : ∀ row, (f row).key = row.key} {k : JobId} :
    (s.updateDevices p f hf).jobRows k =
      (s.jobRows k).map fun row => if p row then f row else row := by
  have hjob : ∀ row, (if p row then f row else row).jobId = row.jobId := by
    intro row
    by_cases h : p row
    · have hkey : (f row).jobId = row.jobId := congrArg Prod.fst (hf row)
      simp [h, hkey]
    · simp [h]
  simp only [jobRows, updateDevices, Table.update, List.filter_map]
  congr 1
  exact List.filter_congr fun row _ => by simp [hjob row]

/-- An update of one assignment leaves the rows of every other job alone. -/
theorem jobRows_updateDevice_of_ne {s : Store} {jobId k : JobId} {deviceId : DeviceId}
    {f : DeviceRow → DeviceRow} {hf : ∀ row, (f row).key = row.key} (h : k ≠ jobId) :
    (s.updateDevice jobId deviceId f hf).jobRows k = s.jobRows k := by
  rw [updateDevice, jobRows_updateDevices]
  refine (List.map_congr_left fun row hrow => ?_).trans (List.map_id _)
  have hkey := (key_of_device? (mem_jobRows.mp hrow)).1
  have : row.key ≠ (jobId, deviceId) := by
    intro heq
    exact h (hkey.symm.trans (congrArg Prod.fst heq))
  simp [this]

/-! ### Closed forms -/

/-- The device states of a job, in table order. -/
def jobStates (s : Store) (jobId : JobId) : List DeviceState :=
  (s.jobRows jobId).map DeviceRow.state

/-- `_increment_revision` of a row. -/
def bumpedJob (timestamp : Millis) (job : JobRow) : JobRow :=
  { job with revision := job.revision + 1, updatedAt := timestamp }

@[simp] theorem bumpedJob_jobId (timestamp : Millis) (job : JobRow) :
    (bumpedJob timestamp job).jobId = job.jobId := rfl

/-- `_rederive_job` of a row, given the states of its device rows. -/
def rederivedJob (timestamp : Millis) (states : List DeviceState) (job : JobRow) : JobRow :=
  if rederiveSkips job.state then job
  else
    match deriveDispatchedJobState states with
    | none => job
    | some derived =>
      if derived = job.state then job
      else
        { job with
          state := derived
          terminalAt := if derived.isTerminal then some timestamp else none
          updatedAt := timestamp }

@[simp] theorem rederivedJob_jobId (timestamp : Millis) (states : List DeviceState)
    (job : JobRow) : (rederivedJob timestamp states job).jobId = job.jobId := by
  unfold rederivedJob
  repeat' split
  all_goals rfl

@[simp] theorem rederivedJob_revision (timestamp : Millis) (states : List DeviceState)
    (job : JobRow) : (rederivedJob timestamp states job).revision = job.revision := by
  unfold rederivedJob
  repeat' split
  all_goals rfl

@[simp] theorem rederivedJob_dispatchEnabled (timestamp : Millis) (states : List DeviceState)
    (job : JobRow) :
    (rederivedJob timestamp states job).dispatchEnabled = job.dispatchEnabled := by
  unfold rederivedJob
  repeat' split
  all_goals rfl

@[simp] theorem rederivedJob_dispatchStartedAt (timestamp : Millis) (states : List DeviceState)
    (job : JobRow) :
    (rederivedJob timestamp states job).dispatchStartedAt = job.dispatchStartedAt := by
  unfold rederivedJob
  repeat' split
  all_goals rfl

@[simp] theorem rederivedJob_artifactId (timestamp : Millis) (states : List DeviceState)
    (job : JobRow) : (rederivedJob timestamp states job).artifactId = job.artifactId := by
  unfold rederivedJob
  repeat' split
  all_goals rfl

@[simp] theorem rederivedJob_clientRequestId (timestamp : Millis) (states : List DeviceState)
    (job : JobRow) :
    (rederivedJob timestamp states job).clientRequestId = job.clientRequestId := by
  unfold rederivedJob
  repeat' split
  all_goals rfl

/-- A rederived job keeps its state when that state is skipped, and otherwise gets the derived
one. -/
theorem rederivedJob_state (timestamp : Millis) (states : List DeviceState) (job : JobRow) :
    (rederivedJob timestamp states job).state =
      if rederiveSkips job.state then job.state
      else (deriveDispatchedJobState states).getD job.state := by
  unfold rederivedJob
  by_cases hskip : rederiveSkips job.state
  · simp [hskip]
  · rw [if_neg hskip, if_neg hskip]
    split
    · rename_i h
      simp [h]
    · rename_i derived h
      split <;> simp_all

/-- Updates that agree on the row they touch are equal. -/
theorem updateJob_congr {s : Store} {jobId : JobId} {f g : JobRow → JobRow}
    {hf : ∀ job, (f job).jobId = job.jobId} {hg : ∀ job, (g job).jobId = job.jobId}
    (h : ∀ job, s.job? jobId = some job → f job = g job) :
    s.updateJob jobId f hf = s.updateJob jobId g hg := by
  simp only [updateJob, mk.injEq, and_true]
  refine Table.ext_rows (List.map_congr_left fun job hjob => ?_)
  by_cases hk : job.jobId = jobId
  · simp [hk, h job (hk ▸ mem_jobs.mp hjob)]
  · simp [hk]

theorem updateJob_id {s : Store} {jobId : JobId} :
    s.updateJob jobId id (fun _ => rfl) = s := by
  have hrows : (s.updateJob jobId id (fun _ => rfl)).jobs = s.jobs :=
    Table.ext_rows ((List.map_congr_left fun job _ => by simp).trans (List.map_id _))
  cases s
  simp only [updateJob, mk.injEq, and_true] at hrows ⊢
  exact hrows

/-- Two updates of one job row compose. -/
theorem updateJob_updateJob {s : Store} {jobId : JobId} {f g : JobRow → JobRow}
    {hf : ∀ job, (f job).jobId = job.jobId} {hg : ∀ job, (g job).jobId = job.jobId} :
    (s.updateJob jobId f hf).updateJob jobId g hg =
      s.updateJob jobId (fun job => g (f job)) (fun job => (hg _).trans (hf job)) := by
  simp only [updateJob, mk.injEq, and_true]
  refine Table.ext_rows ?_
  simp only [Table.update, List.map_map]
  refine List.map_congr_left fun job _ => ?_
  by_cases hk : job.jobId = jobId <;> simp [hk, hf]

/-- What a successful `_rederive_job` makes of a job row. -/
def rederived (s : Store) (timestamp : Millis) (job : JobRow) : JobRow :=
  rederivedJob timestamp (s.jobStates job.jobId) job

@[simp] theorem rederived_jobId (s : Store) (timestamp : Millis) (job : JobRow) :
    (s.rederived timestamp job).jobId = job.jobId := rederivedJob_jobId _ _ _

/-- A successful `_rederive_job` rewrites the job row with `rederived`. -/
theorem rederiveJob_eq {s s' : Store} {jobId : JobId} {timestamp : Millis}
    (h : s.rederiveJob jobId timestamp = .ok s') :
    s' = s.updateJob jobId (s.rederived timestamp) (s.rederived_jobId timestamp) := by
  unfold rederiveJob at h
  split at h
  · exact absurd h (by simp)
  · rename_i job hjob
    have hrow : ∀ job', s.job? jobId = some job' → job' = job ∧ job.jobId = jobId := by
      intro job' hjob'
      rw [hjob, Option.some.injEq] at hjob'
      exact ⟨hjob'.symm, jobId_of_job? hjob⟩
    split at h
    · rename_i hskip
      cases h
      refine updateJob_id.symm.trans (updateJob_congr fun job' hjob' => ?_)
      obtain ⟨rfl, hid⟩ := hrow job' hjob'
      simp [rederived, rederivedJob, hskip]
    · rename_i hskip
      split at h
      · exact absurd h (by simp)
      · rename_i derived hderived
        change deriveDispatchedJobState (s.jobStates jobId) = some derived at hderived
        split at h
        · rename_i hsame
          cases h
          refine updateJob_id.symm.trans (updateJob_congr fun job' hjob' => ?_)
          obtain ⟨rfl, hid⟩ := hrow job' hjob'
          simp [rederived, rederivedJob, hskip, hid, hderived, hsame]
        · rename_i hdiff
          cases h
          refine updateJob_congr fun job' hjob' => ?_
          obtain ⟨rfl, hid⟩ := hrow job' hjob'
          simp [rederived, rederivedJob, hskip, hid, hderived, hdiff]

/-- What the closing lines of a row transaction make of the job row: one more revision, and
the state its device rows derive. -/
def touchedJob (s : Store) (timestamp : Millis) (job : JobRow) : JobRow :=
  s.rederived timestamp (bumpedJob timestamp job)

@[simp] theorem touchedJob_jobId (s : Store) (timestamp : Millis) (job : JobRow) :
    (s.touchedJob timestamp job).jobId = job.jobId := rederivedJob_jobId _ _ _

@[simp] theorem touchedJob_revision (s : Store) (timestamp : Millis) (job : JobRow) :
    (s.touchedJob timestamp job).revision = job.revision + 1 := rederivedJob_revision _ _ _

/-- Bump and rederive one job. -/
def touched (s : Store) (jobId : JobId) (timestamp : Millis) : Store :=
  s.updateJob jobId (s.touchedJob timestamp) (s.touchedJob_jobId timestamp)

theorem rederiveJob_incrementRevision_eq {s s' : Store} {jobId : JobId} {timestamp : Millis}
    (h : (s.incrementRevision jobId timestamp).rederiveJob jobId timestamp = .ok s') :
    s' = s.touched jobId timestamp := by
  rw [rederiveJob_eq h]
  exact updateJob_updateJob

/-- A successful `touchJob` bumps and rederives the job. -/
theorem touchJob_eq {s s' : Store} {jobId : JobId} {timestamp : Millis} {shown : JobSnapshot}
    (h : s.touchJob jobId timestamp = .ok (s', shown)) : s' = s.touched jobId timestamp := by
  unfold touchJob at h
  rcases hr : (s.incrementRevision jobId timestamp).rederiveJob jobId timestamp with e | t
  · simp [hr, bind, Except.bind] at h
  · rcases hs : t.snapshot jobId with e | shown'
    · simp [hr, hs, bind, Except.bind] at h
    · simp only [hr, hs, bind, Except.bind, pure, Except.pure, Except.ok.injEq,
        Prod.mk.injEq] at h
      rw [← h.1]
      exact rederiveJob_incrementRevision_eq hr

/-! ### Loops over jobs -/

/-- Rewrite the rows of the listed jobs. -/
def updateJobs (s : Store) (jobIds : List JobId) (f : JobRow → JobRow)
    (hf : ∀ job, (f job).jobId = job.jobId) : Store :=
  { s with jobs := s.jobs.update (fun job => job.jobId ∈ jobIds) f hf }

theorem job?_updateJobs {s : Store} {jobIds : List JobId} {f : JobRow → JobRow}
    {hf : ∀ job, (f job).jobId = job.jobId} {k : JobId} :
    (s.updateJobs jobIds f hf).job? k =
      (s.job? k).map fun job => if k ∈ jobIds then f job else job := by
  rw [job?, updateJobs, Table.find?_update]
  rcases h : s.jobs.find? k with _ | job
  · simp [job?, h]
  · simp [job?, h, Table.key_of_find? h]

theorem job?_updateJobs_of_mem {s : Store} {jobIds : List JobId} {f : JobRow → JobRow}
    {hf : ∀ job, (f job).jobId = job.jobId} {k : JobId} {job : JobRow}
    (hjob : s.job? k = some job) (hk : k ∈ jobIds) :
    (s.updateJobs jobIds f hf).job? k = some (f job) := by
  rw [job?_updateJobs, hjob, Option.map_some, if_pos hk]

theorem job?_updateJobs_of_notMem {s : Store} {jobIds : List JobId} {f : JobRow → JobRow}
    {hf : ∀ job, (f job).jobId = job.jobId} {k : JobId} (hk : k ∉ jobIds) :
    (s.updateJobs jobIds f hf).job? k = s.job? k := by
  rw [job?_updateJobs]
  simp [hk]

theorem updateJobs_nil {s : Store} {f : JobRow → JobRow}
    {hf : ∀ job, (f job).jobId = job.jobId} : s.updateJobs [] f hf = s := by
  have hrows : (s.updateJobs [] f hf).jobs = s.jobs :=
    Table.ext_rows ((List.map_congr_left fun job _ => by simp).trans (List.map_id _))
  cases s
  simp only [updateJobs, mk.injEq, and_true] at hrows ⊢
  exact hrows

theorem updateJobs_updateJob {s : Store} {jobId : JobId} {jobIds : List JobId}
    {f : JobRow → JobRow} {hf : ∀ job, (f job).jobId = job.jobId} (h : jobId ∉ jobIds) :
    (s.updateJob jobId f hf).updateJobs jobIds f hf = s.updateJobs (jobId :: jobIds) f hf := by
  simp only [updateJob, updateJobs, mk.injEq, and_true]
  refine Table.ext_rows ?_
  simp only [Table.update, List.map_map]
  refine List.map_congr_left fun job _ => ?_
  by_cases hk : job.jobId = jobId
  · simp [hk, hf, h]
  · simp [hk]

/-- A loop whose body rewrites one job row with `f` rewrites the listed rows with `f`. The
body may read the device rows, which the loop does not change. -/
theorem foldlM_updateJob {s s' : Store} {step : Store → JobId → Except StoreError Store}
    {f : JobRow → JobRow} {hf : ∀ job, (f job).jobId = job.jobId} {jobIds : List JobId}
    (hnodup : jobIds.Nodup)
    (hstep : ∀ t t' jobId, t.devices = s.devices → step t jobId = .ok t' →
      t' = t.updateJob jobId f hf)
    (h : jobIds.foldlM step s = .ok s') : s' = s.updateJobs jobIds f hf := by
  induction jobIds generalizing s with
  | nil =>
    cases h
    exact updateJobs_nil.symm
  | cons jobId rest ih =>
    rw [List.foldlM_cons] at h
    obtain ⟨hnot, hrest⟩ := List.nodup_cons.mp hnodup
    rcases ht : step s jobId with e | t
    · rw [ht] at h
      exact absurd h (by simp [bind, Except.bind])
    · rw [ht] at h
      obtain rfl := hstep s t jobId rfl ht
      have hloop := ih (s := s.updateJob jobId f hf) hrest hstep h
      rw [hloop, updateJobs_updateJob hnot]

theorem jobStates_congr {s t : Store} (h : t.devices = s.devices) : t.jobStates = s.jobStates := by
  funext jobId
  rw [jobStates, jobStates, jobRows, jobRows, h]

theorem rederived_congr {s t : Store} (h : t.devices = s.devices) : t.rederived = s.rederived := by
  funext timestamp job
  rw [rederived, rederived, jobStates_congr h]

theorem touchedJob_congr {s t : Store} (h : t.devices = s.devices) :
    t.touchedJob = s.touchedJob := by
  funext timestamp job
  rw [touchedJob, touchedJob, rederived_congr h]

theorem touchJobs_eq {s s' : Store} {jobIds : List JobId} {timestamp : Millis}
    (hnodup : jobIds.Nodup) (h : s.touchJobs jobIds timestamp = .ok s') :
    s' = s.updateJobs jobIds (s.touchedJob timestamp) (s.touchedJob_jobId timestamp) := by
  refine foldlM_updateJob hnodup (fun t t' jobId ht hstep => ?_) h
  rw [rederiveJob_incrementRevision_eq hstep, touched]
  exact updateJob_congr fun job _ => by rw [touchedJob_congr ht]

theorem rederiveJobs_eq {s s' : Store} {jobIds : List JobId} {timestamp : Millis}
    (hnodup : jobIds.Nodup) (h : s.rederiveJobs jobIds timestamp = .ok s') :
    s' = s.updateJobs jobIds (s.rederived timestamp) (s.rederived_jobId timestamp) := by
  refine foldlM_updateJob hnodup (fun t t' jobId ht hstep => ?_) h
  rw [rederiveJob_eq hstep]
  exact updateJob_congr fun job _ => by rw [rederived_congr ht]

theorem incrementRevisions_eq {s : Store} {jobIds : List JobId} {timestamp : Millis}
    (hnodup : jobIds.Nodup) :
    s.incrementRevisions jobIds timestamp =
      s.updateJobs jobIds (bumpedJob timestamp) (bumpedJob_jobId timestamp) := by
  have hfold : jobIds.foldlM (fun (s : Store) jobId =>
      (Except.ok (s.incrementRevision jobId timestamp) : Except StoreError Store)) s =
      .ok (s.incrementRevisions jobIds timestamp) := by
    rw [incrementRevisions]
    exact List.foldlM_pure
  refine foldlM_updateJob hnodup (fun t t' jobId _ hstep => ?_) hfold
  cases hstep
  rfl

theorem bumpJobs_eq {s s' : Store} {jobIds : List JobId} {timestamp : Millis}
    {shown : List JobSnapshot} (hnodup : jobIds.Nodup)
    (h : s.bumpJobs jobIds timestamp = .ok (s', shown)) :
    s' = s.updateJobs jobIds (bumpedJob timestamp) (bumpedJob_jobId timestamp) := by
  unfold bumpJobs at h
  rcases hs : (s.incrementRevisions jobIds timestamp).snapshots jobIds with e | shown'
  · simp [hs, bind, Except.bind] at h
  · simp only [hs, bind, Except.bind, pure, Except.pure, Except.ok.injEq, Prod.mk.injEq] at h
    rw [← h.1, incrementRevisions_eq hnodup]

/-! ### Which jobs a change of a fence bumps -/

theorem nodup_fenceVisibleJobIds (s : Store) (deviceId : DeviceId) :
    (s.fenceVisibleJobIds deviceId).Nodup := by
  rw [fenceVisibleJobIds, (List.perm_insertionSort _ _).nodup_iff]
  exact s.jobs.nodup.sublist (List.filter_sublist.map _)

theorem mem_fenceVisibleJobIds {s : Store} {deviceId : DeviceId} {k : JobId} :
    k ∈ s.fenceVisibleJobIds deviceId ↔
      ∃ job, s.job? k = some job ∧ isNonTerminalValue job.state ∧
        (s.device? k deviceId).isSome := by
  rw [fenceVisibleJobIds, List.mem_insertionSort, List.mem_map]
  simp only [List.mem_filter, Bool.and_eq_true]
  constructor
  · rintro ⟨job, ⟨hmem, hstate, hrow⟩, rfl⟩
    exact ⟨job, mem_jobs.mp hmem, hstate, hrow⟩
  · rintro ⟨job, hjob, hstate, hrow⟩
    obtain rfl := jobId_of_job? hjob
    exact ⟨job, ⟨mem_jobs.mpr hjob, hstate, hrow⟩, rfl⟩

/-- Adding one element at the end unless it is there keeps a list free of repetitions. -/
private theorem nodup_append_if {l : List JobId} {k : JobId} {p : Prop} [Decidable p]
    (hl : l.Nodup) (hp : p → k ∉ l) : (if p then l ++ [k] else l).Nodup := by
  split
  · rename_i h
    exact List.nodup_append.mpr ⟨hl, by simp, by
      rintro a ha b hb rfl
      rw [List.mem_singleton] at hb
      exact hp h (hb ▸ ha)⟩
  · exact hl

/-- Is the device fenced for an execution this store does not know? -/
def isOpaqueFenced (s : Store) (deviceId : DeviceId) : Bool :=
  (s.fence? deviceId).any fun fence => fence.blockingOpaqueIdentity.isSome

/-- The ids with the one of the blocking job, if it exists. -/
private def withBlocking (s : Store) (ids : List JobId) (blocking : Option JobId) : List JobId :=
  blocking.elim ids fun k => if k ∉ ids ∧ (s.job? k).isSome then ids ++ [k] else ids

/-- The ids with the one of the latest job, if the device is fenced for an unknown execution. -/
private def withLatest (s : Store) (deviceId : DeviceId) (ids : List JobId) : List JobId :=
  if s.isOpaqueFenced deviceId then
    (s.latestJob deviceId).elim ids fun latest => if latest ∉ ids then ids ++ [latest] else ids
  else ids

private theorem visibleJobIds_eq (s : Store) (deviceId : DeviceId) (blocking : Option JobId) :
    s.visibleJobIds deviceId blocking =
      s.withLatest deviceId (s.withBlocking (s.fenceVisibleJobIds deviceId) blocking) := by
  unfold visibleJobIds withLatest isOpaqueFenced
  cases hfence : s.fence? deviceId with
  | none => cases blocking <;> rfl
  | some fence =>
    obtain ⟨_, blocker, _, _, _, _, _⟩ := fence
    cases blocker with
    | job => cases blocking <;> rfl
    | unknown => cases blocking <;> cases s.latestJob deviceId <;> rfl

theorem nodup_visibleJobIds (s : Store) (deviceId : DeviceId) (blocking : Option JobId) :
    (s.visibleJobIds deviceId blocking).Nodup := by
  have hids : (s.withBlocking (s.fenceVisibleJobIds deviceId) blocking).Nodup := by
    have hvisible := s.nodup_fenceVisibleJobIds deviceId
    cases blocking with
    | none => exact hvisible
    | some k => exact nodup_append_if hvisible fun h => h.1
  rw [visibleJobIds_eq, withLatest]
  split
  · cases s.latestJob deviceId with
    | none => exact hids
    | some latest => exact nodup_append_if hids id
  · exact hids

private theorem mem_append_if {l : List JobId} {k j : JobId} {p : Prop} [Decidable p]
    (hp : ¬ p → k = j → k ∈ l) : k ∈ (if p then l ++ [j] else l) ↔ k ∈ l ∨ k = j := by
  split
  · simp
  · rename_i h
    constructor
    · exact .inl
    · rintro (hk | hk)
      · exact hk
      · exact hp h hk

/-- The jobs a change of a fence bumps: the non-terminal ones that target the device, the
blocking one if it exists, and the latest one of the device if the fence is opaque. -/
theorem mem_visibleJobIds {s : Store} {deviceId : DeviceId} {blocking : Option JobId} {k : JobId} :
    k ∈ s.visibleJobIds deviceId blocking ↔
      k ∈ s.fenceVisibleJobIds deviceId ∨ (blocking = some k ∧ (s.job? k).isSome) ∨
        (s.isOpaqueFenced deviceId ∧ s.latestJob deviceId = some k) := by
  have hblocking : k ∈ s.withBlocking (s.fenceVisibleJobIds deviceId) blocking ↔
      k ∈ s.fenceVisibleJobIds deviceId ∨ (blocking = some k ∧ (s.job? k).isSome) := by
    cases blocking with
    | none => simp [withBlocking]
    | some j =>
      rw [withBlocking, Option.elim_some]
      by_cases hmem : j ∉ s.fenceVisibleJobIds deviceId ∧ (s.job? j).isSome
      · rw [if_pos hmem, List.mem_append, List.mem_singleton]
        refine or_congr_right ⟨fun hk => ⟨congrArg some hk.symm, hk ▸ hmem.2⟩, fun hk => ?_⟩
        exact (Option.some.inj hk.1).symm
      · rw [if_neg hmem]
        refine ⟨.inl, fun hk => hk.elim id fun hk => ?_⟩
        obtain rfl := Option.some.inj hk.1
        by_contra hout
        exact hmem ⟨hout, hk.2⟩
  rw [visibleJobIds_eq, withLatest, ← or_assoc, ← hblocking]
  split
  · rename_i hunknown
    cases hlatest : s.latestJob deviceId with
    | none => simp
    | some latest =>
      rw [Option.elim_some, mem_append_if (fun h hk => by simpa [hk] using h)]
      simp [hunknown, eq_comm]
  · rename_i hunknown
    simp [hunknown]

end Store

end StylyMdm.PushJobs
