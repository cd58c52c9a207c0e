import StylyMdm.PushJobs.Change

/-!
# Referential integrity of the store

The facts every reachable store satisfies before any policy comes in: device rows belong to jobs
and jobs have device rows, a published artifact is in the artifact table, and `enqueue_seq` is
unique and below the counter it is drawn from. SQLite enforces some of these through foreign keys
and unique columns; here they are an invariant of the operations.

So no proof depends on the database raising an exception: where the source would get an
`IntegrityError`, the invariant says that the situation does not arise. What never changes of a row
is stated first (`RowChange.place_eq`, `RowChange.enqueueSeq_eq`); the invariant follows for all
operations but the creation of a job, which has a lemma of its own (`WellFormed.create`).
-/

namespace StylyMdm.PushJobs

namespace Store

/-- Referential integrity. -/
structure WellFormed (s : Store) : Prop where
  jobOfRow : ∀ {k d row}, s.device? k d = some row → ∃ job, s.job? k = some job
  rowOfJob : ∀ {k job}, s.job? k = some job → ∃ d row, s.device? k d = some row
  artifactOfJob : ∀ {k job id}, s.job? k = some job → job.artifactId = some id →
    ∃ artifact, s.artifacts.find? id = some artifact
  seqLt : ∀ {k d row}, s.device? k d = some row → row.enqueueSeq < s.nextEnqueueSeq
  seqInj : ∀ {k d row k' d' row'}, s.device? k d = some row → s.device? k' d' = some row' →
    row.enqueueSeq = row'.enqueueSeq → k = k' ∧ d = d'

theorem WellFormed.initial : WellFormed initial where
  jobOfRow h := absurd h (by simp [device?, Store.initial])
  rowOfJob h := absurd h (by simp [job?, Store.initial])
  artifactOfJob h := absurd h (by simp [job?, Store.initial])
  seqLt h := absurd h (by simp [device?, Store.initial])
  seqInj h := absurd h (by simp [device?, Store.initial])

/-! ### What no operation changes -/

section Stable

variable {now : Millis} {s s' : Store} {op : Op}

/-- No operation changes the columns of a row's place. -/
theorem RowChange.place_eq {row row' : DeviceRow} (h : RowChange now s row op row') :
    place row' = place row := by
  cases h with
  | same => rfl
  | edit edit => cases edit <;> rfl
  | unconfirmed hstate => rfl
  | recovered =>
    rename_i acceptTimeout timeout
    unfold recoverRow
    split
    all_goals first
      | rfl
      | (split <;> rfl)
  | artifactMissing hjob hdispatched hneeds => rfl

theorem RowChange.enqueueSeq_eq {row row' : DeviceRow} (h : RowChange now s row op row') :
    row'.enqueueSeq = row.enqueueSeq := congrArg (·.2.2.1) h.place_eq

/-- Conversely, a row of the new store comes from an old one, or is new. -/
theorem Effect.row_cases (e : Effect now s op s') {k : JobId} {d : DeviceId} {row' : DeviceRow}
    (hk : s'.device? k d = some row') :
    (∃ row, s.device? k d = some row ∧ RowChange now s row op row') ∨
      ∃ request targetProtocols timeout, op = .createJob k request targetProtocols timeout ∧
        s.job? k = none ∧ s'.nextEnqueueSeq = s.nextEnqueueSeq + request.targetDevices.length ∧
        ∃ i protocol capabilities, i < request.targetDevices.length ∧
          row' = newDeviceRow now k s.nextEnqueueSeq i d protocol capabilities := by
  rcases h : s.device? k d with _ | row
  · exact .inr (e.row_of_new h hk)
  · obtain ⟨row'', hrow'', hchange⟩ := e.rowChange h
    rw [hk, Option.some.injEq] at hrow''
    exact .inl ⟨row, rfl, hrow'' ▸ hchange⟩

/-- Conversely, a job row of the new store comes from an old one, or is new. -/
theorem Effect.job_cases (e : Effect now s op s') {k : JobId} {job' : JobRow}
    (hk : s'.job? k = some job') :
    (∃ job, s.job? k = some job ∧ JobChange now s s' job op job') ∨
      ∃ request targetProtocols timeout, op = .createJob k request targetProtocols timeout ∧
        job' = newJobRow now k request timeout := by
  rcases h : s.job? k with _ | job
  · exact .inr (e.job_of_new h hk)
  · obtain ⟨job'', hjob'', hchange⟩ := e.jobChange h
    rw [hk, Option.some.injEq] at hjob''
    exact .inl ⟨job, rfl, hjob'' ▸ hchange⟩

/-- `enqueue_seq` values are never taken back. -/
theorem Effect.nextEnqueueSeq_le (e : Effect now s op s') :
    s.nextEnqueueSeq ≤ s'.nextEnqueueSeq := by
  cases e with
  | create hnew hrequest hjobs hrows hdevices => exact Nat.le_add_right _ _
  | unconfirm hrow hstate ht hdue => exact le_of_eq (by rw [ht]; rfl)
  | fenceUnknown hnew ht => exact le_of_eq (by rw [ht]; rfl)
  | recover ht => exact le_of_eq (by rw [ht]; rfl)
  | artifactsFailed h => exact h.nextEnqueueSeq.ge
  | row hrow edit =>
    rename_i drop hf
    cases drop <;> exact le_rfl
  | _ => exact le_rfl

/-- Artifacts stay. -/
theorem Effect.artifact_mono (e : Effect now s op s') {id : String} {artifact : ArtifactRow}
    (h : s.artifacts.find? id = some artifact) : s'.artifacts.find? id = some artifact := by
  cases e with
  | publish hjob hstate hnew hrows =>
    rename_i job published artifacts
    have hne : id ≠ published.artifactId := by
      rintro rfl
      exact absurd (hnew.symm.trans h) (by simp)
    exact (Table.find?_append hnew hrows id).trans ((if_neg hne).trans h)
  | unconfirm hrow hstate ht hdue =>
    rw [ht]
    exact h
  | fenceUnknown hnew ht =>
    rw [ht]
    exact h
  | recover ht =>
    rw [ht]
    exact h
  | artifactsFailed hf => rw [hf.artifacts, h]
  | row hrow edit =>
    rename_i drop hf
    cases drop <;> exact h
  | _ => exact h

/-- The artifact a job row names was named before, or is the one just published. -/
theorem JobChange.artifactId_eq {job job' : JobRow} (h : JobChange now s s' job op job') :
    job'.artifactId = job.artifactId ∨ ∃ artifact, op = .publishArtifact job.jobId artifact ∧
      job'.artifactId = some artifact.artifactId := by
  cases h with
  | published hrows hstate => exact .inr ⟨_, rfl, rfl⟩
  | edit hrows edit =>
    refine .inl ?_
    cases edit <;> rfl
  | touched => exact .inl (rederivedJob_artifactId _ _ _)
  | recovered =>
    refine .inl ((rederivedJob_artifactId _ _ _).trans ?_)
    unfold recoverJob
    split
    · split <;> rfl
    all_goals rfl
  | _ => exact .inl rfl

/-- An operation that publishes an artifact and changes the store has put it into the table. -/
theorem Effect.artifact_of_publish {jobId : JobId} {artifact : PublishedArtifact}
    (e : Effect now s (.publishArtifact jobId artifact) s') (hne : s' ≠ s) :
    ∃ row, s'.artifacts.find? artifact.artifactId = some row := by
  generalize hop : Op.publishArtifact jobId artifact = op at e
  cases e with
  | same => exact absurd rfl hne
  | publish hjob hstate hnew hrows =>
    cases hop
    exact ⟨_, (Table.find?_append hnew hrows _).trans (if_pos rfl)⟩
  | job hjob edit =>
    subst hop
    cases edit
  | row hrow edit =>
    subst hop
    cases edit
  | clear hfence hclear hids =>
    subst hop
    cases hclear
  | _ => cases hop

/-- `create_job` leaves the store alone or inserts one job with its rows. -/
theorem Effect.created {jobId : JobId} {request : CanonicalCreateRequest}
    {targetProtocols : DeviceId → Option (ProtocolMode × List String)} {timeout : Nat}
    (e : Effect now s (.createJob jobId request targetProtocols timeout) s') :
    s' = s ∨ (s.job? jobId = none ∧
      (∀ job ∈ s.jobs.rows, job.clientRequestId ≠ request.clientRequestId) ∧
      ∃ jobs devices rows, jobs.rows = s.jobs.rows ++ [newJobRow now jobId request timeout] ∧
        TargetRows now jobId s.nextEnqueueSeq 0 request.targetDevices rows ∧
        devices.rows = s.devices.rows ++ rows ∧
        s' = { s with
          jobs, devices, nextEnqueueSeq := s.nextEnqueueSeq + request.targetDevices.length }) := by
  generalize hop : Op.createJob jobId request targetProtocols timeout = op at e
  cases e with
  | same => exact .inl rfl
  | create hnew hrequest hjobs hrows hdevices =>
    cases hop
    exact .inr ⟨hnew, hrequest, _, _, _, hjobs, hrows, hdevices, rfl⟩
  | job hjob edit =>
    subst hop
    cases edit
  | row hrow edit =>
    subst hop
    cases edit
  | clear hfence hclear hids =>
    subst hop
    cases hclear
  | _ => cases hop

end Stable

/-- The rows `create_job` inserts keep the store well formed. -/
private theorem WellFormed.create {now : Millis} {s : Store} {jobId : JobId}
    {request : CanonicalCreateRequest} {timeout : Nat} {jobs : Table JobRow.jobId}
    {devices : Table DeviceRow.key} {rows : List DeviceRow} (hwf : WellFormed s)
    (hnew : s.job? jobId = none)
    (hjobs : jobs.rows = s.jobs.rows ++ [newJobRow now jobId request timeout])
    (hrows : TargetRows now jobId s.nextEnqueueSeq 0 request.targetDevices rows)
    (hdevices : devices.rows = s.devices.rows ++ rows) :
    WellFormed { s with
      jobs, devices, nextEnqueueSeq := s.nextEnqueueSeq + request.targetDevices.length } := by
  have hnew' : s.job? (newJobRow now jobId request timeout).jobId = none := hnew
  have hjob : ∀ {k}, Store.job? { s with
      jobs, devices, nextEnqueueSeq := s.nextEnqueueSeq + request.targetDevices.length } k =
      if k = jobId then some (newJobRow now jobId request timeout) else s.job? k :=
    job?_append hnew' hjobs
  have hdev : ∀ {k d row}, Store.device? { s with
      jobs, devices, nextEnqueueSeq := s.nextEnqueueSeq + request.targetDevices.length } k d =
      some row ↔ s.device? k d = some row ∨ (row ∈ rows ∧ row.key = (k, d)) :=
    device?_append hdevices
  have hjobId : ∀ row ∈ rows, row.jobId = jobId := by
    intro row hrow
    obtain ⟨i, d, protocol, capabilities, rfl⟩ := hrows.fresh row hrow
    rfl
  have hseq : ∀ row ∈ rows, s.nextEnqueueSeq ≤ row.enqueueSeq ∧
      row.enqueueSeq < s.nextEnqueueSeq + request.targetDevices.length := by
    intro row hrow
    have hmem := List.mem_map_of_mem (f := DeviceRow.enqueueSeq) hrow
    rw [hrows.seqs, List.mem_range'_1] at hmem
    simpa using hmem
  refine ⟨?_, ?_, ?_, ?_, ?_⟩
  · intro k d row hrow
    rw [hjob]
    by_cases hk : k = jobId
    · exact ⟨_, if_pos hk⟩
    · rw [if_neg hk]
      rcases hdev.mp hrow with hold | ⟨hmem, hkey⟩
      · exact hwf.jobOfRow hold
      · exact absurd ((congrArg Prod.fst hkey).symm.trans (hjobId row hmem)) hk
  · intro k job hk
    rw [hjob] at hk
    by_cases h : k = jobId
    · -- a request has at least one target
      have hne : rows ≠ [] := by
        rintro rfl
        exact request.targets_ne_nil hrows.devices.symm
      obtain ⟨row, hrow⟩ := List.exists_mem_of_ne_nil rows hne
      refine ⟨row.deviceId, row, hdev.mpr (.inr ⟨hrow, ?_⟩)⟩
      rw [DeviceRow.key, hjobId row hrow, h]
    · rw [if_neg h] at hk
      obtain ⟨d, row, hrow⟩ := hwf.rowOfJob hk
      exact ⟨d, row, hdev.mpr (.inl hrow)⟩
  · intro k job id hk hid
    rw [hjob] at hk
    by_cases h : k = jobId
    · rw [if_pos h, Option.some.injEq] at hk
      subst hk
      exact absurd hid (by simp [newJobRow])
    · rw [if_neg h] at hk
      exact hwf.artifactOfJob hk hid
  · intro k d row hrow
    rcases hdev.mp hrow with hold | ⟨hmem, -⟩
    · exact (hwf.seqLt hold).trans_le (Nat.le_add_right _ _)
    · exact (hseq row hmem).2
  · intro k d row k' d' row' hrow hrow' heq
    rcases hdev.mp hrow with hold | ⟨hmem, hkey⟩ <;>
      rcases hdev.mp hrow' with hold' | ⟨hmem', hkey'⟩
    · exact hwf.seqInj hold hold' heq
    · have := hwf.seqLt hold
      have := (hseq row' hmem').1
      omega
    · have := hwf.seqLt hold'
      have := (hseq row hmem).1
      omega
    · -- the values are consecutive, so they determine the row
      have hnodup : (rows.map DeviceRow.enqueueSeq).Nodup := by
        rw [hrows.seqs]
        exact List.nodup_range'
      obtain rfl := List.inj_on_of_nodup_map hnodup hmem hmem' heq
      exact Prod.mk.inj (hkey.symm.trans hkey')

/-- Every operation keeps the store well formed. -/
theorem WellFormed.effect {now : Millis} {s s' : Store} {op : Op} (hwf : WellFormed s)
    (e : Effect now s op s') : WellFormed s' := by
  by_cases hcreate : ∃ k request protocols timeout, op = .createJob k request protocols timeout
  · obtain ⟨k, request, protocols, timeout, rfl⟩ := hcreate
    rcases e.created with rfl | ⟨hnew, -, jobs, devices, rows, hjobs, hrows, hdevices, rfl⟩
    · exact hwf
    · exact hwf.create hnew hjobs hrows hdevices
  · have hold : ∀ {k d row'}, s'.device? k d = some row' →
        ∃ row, s.device? k d = some row ∧ RowChange now s row op row' := by
      intro k d row' hrow'
      rcases e.row_cases hrow' with h | ⟨request, protocols, timeout, rfl, -⟩
      · exact h
      · exact absurd ⟨_, _, _, _, rfl⟩ hcreate
    have hjold : ∀ {k job'}, s'.job? k = some job' →
        ∃ job, s.job? k = some job ∧ JobChange now s s' job op job' := by
      intro k job' hjob'
      rcases e.job_cases hjob' with h | ⟨request, protocols, timeout, rfl, -⟩
      · exact h
      · exact absurd ⟨_, _, _, _, rfl⟩ hcreate
    refine ⟨?_, ?_, ?_, ?_, ?_⟩
    · intro k d row' hrow'
      obtain ⟨row, hrow, -⟩ := hold hrow'
      obtain ⟨job, hjob⟩ := hwf.jobOfRow hrow
      obtain ⟨job', hjob', -⟩ := e.jobChange hjob
      exact ⟨job', hjob'⟩
    · intro k job' hjob'
      obtain ⟨job, hjob, -⟩ := hjold hjob'
      obtain ⟨d, row, hrow⟩ := hwf.rowOfJob hjob
      obtain ⟨row', hrow', -⟩ := e.rowChange hrow
      exact ⟨d, row', hrow'⟩
    · intro k job' id hjob' hid
      obtain ⟨job, hjob, hchange⟩ := hjold hjob'
      rcases hchange.artifactId_eq with heq | ⟨artifact, rfl, heq⟩
      · obtain ⟨a, ha⟩ := hwf.artifactOfJob hjob (heq.symm.trans hid)
        exact ⟨a, e.artifact_mono ha⟩
      · rw [hid, Option.some.injEq] at heq
        subst heq
        by_cases hne : s' = s
        · subst hne
          exact hwf.artifactOfJob hjob' hid
        · exact e.artifact_of_publish hne
    · intro k d row' hrow'
      obtain ⟨row, hrow, hchange⟩ := hold hrow'
      rw [hchange.enqueueSeq_eq]
      exact (hwf.seqLt hrow).trans_le e.nextEnqueueSeq_le
    · intro k d row₁ k' d' row₂ hrow₁ hrow₂ heq
      obtain ⟨row, hrow, hchange⟩ := hold hrow₁
      obtain ⟨row', hrow', hchange'⟩ := hold hrow₂
      rw [hchange.enqueueSeq_eq, hchange'.enqueueSeq_eq] at heq
      exact hwf.seqInj hrow hrow' heq

theorem WellFormed.step {s : Store} (hwf : WellFormed s) (indexed : Bool) (call : Millis × Op) :
    WellFormed (s.step indexed call) := hwf.effect (step_effect indexed s call)

/-- Every reachable store is well formed. -/
theorem Reachable.wellFormed {indexed : Bool} {s : Store} (h : Reachable indexed s) :
    WellFormed s := by
  obtain ⟨calls, rfl⟩ := h
  exact Run.exec_invariant (fun s call hs => hs.step indexed call) .initial calls

end Store

end StylyMdm.PushJobs
