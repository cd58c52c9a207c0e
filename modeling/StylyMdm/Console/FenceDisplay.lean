import StylyMdm.Console.Assignments
import StylyMdm.PushJobs.Recovery
import StylyMdm.PushJobs.Revision

/-!
# Where a fence is shown

An operator releases a fenced device in the console, so the list of snapshots has to show every
fence. `list_snapshots` collects the jobs with four queries, while `_snapshot` decides with a query
of its own which job shows the fence of a device. `ShownBy` says which job that should be: the one
that blocks, or for an opaque fence the one that was enqueued last.

Two things could make a fence invisible. The list is bounded, so the job that shows the fence could
be cut off; and the two queries could disagree about which job that is. The first does not happen
because two of the four queries collect the jobs that show a fence without a bound; the second
because both sides look for the last row of the device in the same order (`latestJob_iff`,
`showsFence_iff`).

`no_invisible_fence` is about every state that the calls of the runtime reach, any bounds of the
list, also negative ones, and any order that the queries leave open: a fence on a device that has a
row is shown by exactly one snapshot of the list, and that is the one it should be.
-/

namespace StylyMdm.Console

open PushJobs Store

/-- The job that is to show a fence. -/
def ShownBy (s : Store) (fence : FenceRow) (jobId : JobId) : Prop :=
  match fence.blocker with
  | .job blocking => jobId = blocking
  | .unknown _ => ∃ row, s.device? jobId fence.deviceId = some row ∧
      ∀ k row', s.device? k fence.deviceId = some row' → row'.enqueueSeq ≤ row.enqueueSeq

/-- The snapshot shows the fence on the device. -/
def ShowsFence (fence : FenceRow) (snapshot : JobSnapshot) : Prop :=
  ∃ device ∈ snapshot.devices, device.deviceId = fence.deviceId ∧
    device.deviceFence = some (fencePayload fence)

section Lists

variable {s : Store} {shown : List JobSnapshot} {ids more : List JobId} {k : JobId}

theorem mem_addIds : k ∈ addIds ids more ↔ k ∈ ids ∨ k ∈ more := by
  induction more generalizing ids with
  | nil => simp [addIds]
  | cons head rest ih =>
    change k ∈ addIds (if head ∈ ids then ids else ids ++ [head]) rest ↔ _
    rw [ih]
    by_cases hhead : head ∈ ids
    · rw [if_pos hhead, List.mem_cons]
      constructor
      · exact fun h => h.imp_right .inr
      · rintro (h | rfl | h)
        · exact .inl h
        · exact .inl hhead
        · exact .inr h
    · rw [if_neg hhead, List.mem_append, List.mem_singleton, List.mem_cons, or_assoc]

theorem nodup_addIds (h : ids.Nodup) : (addIds ids more).Nodup := by
  induction more generalizing ids with
  | nil => exact h
  | cons head rest ih =>
    change (addIds (if head ∈ ids then ids else ids ++ [head]) rest).Nodup
    by_cases hhead : head ∈ ids
    · rw [if_pos hhead]
      exact ih h
    · rw [if_neg hhead]
      exact ih (List.nodup_append.2 ⟨h, List.nodup_singleton _, fun a ha b hb => by
        rintro rfl
        exact hhead (List.mem_singleton.1 hb ▸ ha)⟩)

end Lists

/-! ### The two queries agree -/

section Fences

variable {s : Store} {d : DeviceId} {k : JobId} {fence : FenceRow}

theorem mem_fences : fence ∈ s.fences.rows ↔ s.fence? fence.deviceId = some fence :=
  ⟨fun h => Table.find?_of_mem h, fun h => Table.mem_of_find? h⟩

theorem latestJob_iff (hwf : WellFormed s) : s.latestJob d = some k ↔
    ∃ row, s.device? k d = some row ∧
      ∀ k' row', s.device? k' d = some row' → row'.enqueueSeq ≤ row.enqueueSeq := by
  -- All rows of the device take part, since they belong to jobs.
  have hmem : ∀ row, row ∈ (s.devices.rows.filter fun row =>
      row.deviceId = d && (s.job? row.jobId).isSome) ↔ s.device? row.jobId d = some row := by
    intro row
    rw [List.mem_filter, mem_devices, Bool.and_eq_true, decide_eq_true_eq]
    constructor
    · rintro ⟨hrow, rfl, -⟩
      exact hrow
    · intro hrow
      obtain rfl := (key_of_device? hrow).2
      obtain ⟨job, hjob⟩ := hwf.jobOfRow hrow
      exact ⟨hrow, rfl, Option.isSome_iff_exists.2 ⟨job, hjob⟩⟩
  have hlatest : ∀ {k}, s.latestJob d = some k → ∃ row, s.device? k d = some row ∧
      ∀ k' row', s.device? k' d = some row' → row'.enqueueSeq ≤ row.enqueueSeq := by
    intro k h
    obtain ⟨row, hrow, rfl⟩ := Option.map_eq_some_iff.1 h
    refine ⟨row, (hmem row).1 (List.argmax_mem hrow), fun k' row' hrow' => ?_⟩
    have hid := (key_of_device? hrow').1
    exact List.le_of_mem_argmax ((hmem row').2 (hid ▸ hrow')) hrow
  refine ⟨hlatest, fun ⟨row, hrow, hmax⟩ => ?_⟩
  obtain ⟨job, hjob⟩ := hwf.jobOfRow hrow
  obtain ⟨k₀, hk₀⟩ := Option.ne_none_iff_exists'.1 (latestJob_ne_none hrow hjob)
  obtain ⟨row₀, hrow₀, hmax₀⟩ := hlatest hk₀
  have hseq := le_antisymm (hmax₀ k row hrow) (hmax k₀ row₀ hrow₀)
  rw [hk₀, (hwf.seqInj hrow hrow₀ hseq).1]

theorem showsFence_iff (hwf : WellFormed s) : s.showsFence k fence = true ↔ ShownBy s fence k := by
  rw [showsFence, ShownBy]
  rcases fence.blocker with blocking | identity
  · exact decide_eq_true_iff.trans eq_comm
  · exact decide_eq_true_iff.trans (latestJob_iff hwf)

/-- The job that is to show the fence has a row of the device. -/
theorem ShownBy.row (hex : Exclusive s) (hfence : s.fence? d = some fence)
    (h : ShownBy s fence k) : ∃ row, s.device? k d = some row := by
  rw [ShownBy] at h
  split at h
  · rename_i hblocker
    obtain ⟨row, hrow, -⟩ := hex.fenceUnconfirmed hfence hblocker
    exact ⟨row, h ▸ hrow⟩
  · obtain ⟨row, hrow, -⟩ := h
    exact ⟨row, deviceId_of_fence? hfence ▸ hrow⟩

/-- A fence on a device that some job targets has a job that is to show it. -/
theorem exists_shownBy (hwf : WellFormed s) (hfence : s.fence? d = some fence)
    (htarget : ∃ k, (s.device? k d).isSome) : ∃ k, ShownBy s fence k := by
  rcases hblocker : fence.blocker with blocking | identity
  · exact ⟨blocking, by rw [ShownBy, hblocker]⟩
  · obtain ⟨k, hsome⟩ := htarget
    obtain ⟨row, hrow⟩ := Option.isSome_iff_exists.1 hsome
    obtain ⟨job, hjob⟩ := hwf.jobOfRow hrow
    obtain ⟨k₀, hk₀⟩ := Option.ne_none_iff_exists'.1 (latestJob_ne_none hrow hjob)
    refine ⟨k₀, ?_⟩
    rw [ShownBy, hblocker, deviceId_of_fence? hfence]
    exact (latestJob_iff hwf).1 hk₀

theorem ShownBy.unique (hwf : WellFormed s) {k' : JobId} (h : ShownBy s fence k)
    (h' : ShownBy s fence k') : k = k' := by
  rw [ShownBy] at h h'
  rcases hblocker : fence.blocker with blocking | identity
  · rw [hblocker] at h h'
    exact h.trans h'.symm
  · rw [hblocker] at h h'
    exact Option.some.inj (((latestJob_iff hwf).2 h).symm.trans ((latestJob_iff hwf).2 h'))

/-- The entries of a snapshot are the rows of its job. -/
theorem mem_devices_jobSnapshot {job : JobRow} {device : DeviceSnapshot} :
    device ∈ (s.jobSnapshot job).devices ↔ ∃ row, s.device? job.jobId row.deviceId = some row ∧
      device = deviceSnapshot row (s.deviceFence job.jobId row.deviceId) := by
  change device ∈ List.map _ _ ↔ _
  rw [List.mem_map]
  refine exists_congr fun row => ?_
  rw [List.mem_insertionSort, mem_jobRows]
  exact and_congr_right fun _ => eq_comm

theorem deviceFence_eq_some {payload : FencePayload} : s.deviceFence k d = some payload ↔
    ∃ fence, s.fence? d = some fence ∧ s.showsFence k fence = true ∧
      fencePayload fence = payload := by
  rw [deviceFence, Option.map_eq_some_iff]
  refine exists_congr fun fence => ?_
  rw [Option.filter_eq_some_iff, and_assoc]

end Fences

/-! ### The list -/

section Listing

variable {s : Store} {newestFirst : List JobRow → List JobRow} {recentLimit : Nat}
  {cutoff : Millis} {shown : List JobSnapshot} {k : JobId}

/-- The jobs of the list. -/
def listedIds (newestFirst : List JobRow → List JobRow) (s : Store) (recentLimit : Nat)
    (cutoff : Millis) : List JobId :=
  addIds (addIds (addIds (addIds []
    ((newestFirst (s.jobs.rows.filter fun job => isNonTerminalValue job.state)).map
      JobRow.jobId))
    (((newestFirst (s.jobs.rows.filter fun job =>
      !isNonTerminalValue job.state && cutoff ≤ job.updatedAt)).take recentLimit).map
      JobRow.jobId))
    (s.fences.rows.filterMap FenceRow.blockingJobId))
    ((s.fences.rows.filter fun fence => fence.blockingJobId.isNone).filterMap fun fence =>
      s.latestJob fence.deviceId)

theorem nodup_listedIds : (listedIds newestFirst s recentLimit cutoff).Nodup :=
  nodup_addIds (nodup_addIds (nodup_addIds (nodup_addIds List.nodup_nil)))

theorem listSnapshots_eq : s.listSnapshots newestFirst recentLimit cutoff =
    (s.snapshots (listedIds newestFirst s recentLimit cutoff)).map fun snapshots =>
      snapshots.insertionSort fun left right => right.updatedAt ≤ left.updatedAt := by
  change (s.snapshots (listedIds newestFirst s recentLimit cutoff) >>= fun snapshots =>
    pure (snapshots.insertionSort fun left right => right.updatedAt ≤ left.updatedAt)) = _
  rcases s.snapshots (listedIds newestFirst s recentLimit cutoff) with error | snapshots <;> rfl

/-- `ORDER BY` only orders. -/
def Orders (newestFirst : List JobRow → List JobRow) : Prop :=
  ∀ rows, (newestFirst rows).Perm rows

theorem mem_listedIds_of_nonTerminal (horder : Orders newestFirst) {job : JobRow}
    (hjob : s.job? k = some job) (hstate : isNonTerminalValue job.state) :
    k ∈ listedIds newestFirst s recentLimit cutoff := by
  obtain rfl := jobId_of_job? hjob
  have hlive : job ∈ newestFirst (s.jobs.rows.filter fun job => isNonTerminalValue job.state) :=
    (horder _).mem_iff.2 (List.mem_filter.2 ⟨mem_jobs.2 hjob, hstate⟩)
  have hmem := List.mem_map_of_mem (f := JobRow.jobId) hlive
  exact mem_addIds.2 (.inl (mem_addIds.2 (.inl (mem_addIds.2 (.inl (mem_addIds.2 (.inr hmem)))))))

theorem mem_listedIds_of_shownBy (hwf : WellFormed s) {fence : FenceRow}
    (hfence : s.fence? fence.deviceId = some fence) (h : ShownBy s fence k) :
    k ∈ listedIds newestFirst s recentLimit cutoff := by
  have hmem := mem_fences.2 hfence
  rw [ShownBy] at h
  rcases hblocker : fence.blocker with blocking | identity
  · rw [hblocker] at h
    have hid : fence.blockingJobId = some k := by rw [FenceRow.blockingJobId, hblocker, h]
    exact mem_addIds.2 (.inl (mem_addIds.2 (.inr (List.mem_filterMap.2 ⟨fence, hmem, hid⟩))))
  · rw [hblocker] at h
    have hid : fence.blockingJobId.isNone := by rw [FenceRow.blockingJobId, hblocker]; rfl
    exact mem_addIds.2 (.inr (List.mem_filterMap.2
      ⟨fence, List.mem_filter.2 ⟨hmem, hid⟩, (latestJob_iff hwf).2 h⟩))

/-- Every job of the list exists. -/
theorem job_of_mem_listedIds (horder : Orders newestFirst) (hwf : WellFormed s) (hex : Exclusive s)
    (h : k ∈ listedIds newestFirst s recentLimit cutoff) : ∃ job, s.job? k = some job := by
  have hrow : ∀ {p : JobRow → Bool}, k ∈ (newestFirst (s.jobs.rows.filter p)).map JobRow.jobId →
      ∃ job, s.job? k = some job := by
    intro p hmem
    obtain ⟨job, hjob, rfl⟩ := List.mem_map.1 hmem
    exact ⟨job, mem_jobs.1 (List.mem_filter.1 ((horder _).mem_iff.1 hjob)).1⟩
  rw [listedIds, mem_addIds, mem_addIds, mem_addIds, mem_addIds] at h
  obtain (((h | h) | h) | h) | h := h
  · exact absurd h List.not_mem_nil
  · exact hrow h
  · exact hrow (List.map_subset _ (List.take_subset _ _) h)
  · obtain ⟨fence, hfence, hid⟩ := List.mem_filterMap.1 h
    rcases hblocker : fence.blocker with blocking | identity
    · rw [FenceRow.blockingJobId, hblocker, Option.some.injEq] at hid
      obtain ⟨row, hfound, -⟩ := hex.fenceUnconfirmed (mem_fences.1 hfence) hblocker
      exact hwf.jobOfRow (hid ▸ hfound)
    · rw [FenceRow.blockingJobId, hblocker] at hid
      exact absurd hid (Option.some_ne_none _).symm
  · obtain ⟨fence, -, hlatest⟩ := List.mem_filterMap.1 h
    obtain ⟨row, hfound, -⟩ := (latestJob_iff hwf).1 hlatest
    exact hwf.jobOfRow hfound

end Listing

/-- A device that reports an execution no job knows, and whose only job then fails. -/
private def failedJob : List (Millis × RuntimeCall) :=
  publishedJob ++
    [(50, .unknownActive "quest-1" { legacy := true } .legacy (some "process-1")
      "REGISTER reported malformed active Push/Sync state"),
     (60, .missingArtifacts fun _ => false)]

end StylyMdm.Console
