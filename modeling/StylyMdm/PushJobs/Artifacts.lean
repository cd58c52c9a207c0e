import StylyMdm.PushJobs.StateMachine

/-!
# Artifacts and their jobs

An artifact row comes into the table together with the reference of its job, and neither goes away.
So every artifact belongs to one job, and a job can be dispatched only if it has one (`Owned`).

`ArtifactFits` relates the reference to the state of the job: a state before the publication has no
artifact, and a state that comes after it only has one. A failed job may have one or not.
`UploadStarted`, that a job is not `created` any more, makes one upload belong to one job: the
upload of a job is started at most once. The files behind the rows are the concern of
`Artifacts.Durability`, which uses the results of this module for the store.
-/

namespace StylyMdm.PushJobs

namespace Store

/-- Is the artifact of the job still to be published? -/
def beforeArtifact (state : JobState) : Bool :=
  state ∈ [JobState.created, .uploading, .packaging]

/-- Does the job state say that there is an artifact? -/
def impliesArtifact (state : JobState) : Bool :=
  state ∈ [JobState.ready, .running, .reconciling, .succeeded, .completedWithErrors]

/-- The artifact of a job fits to its state. -/
structure ArtifactFits (job : JobRow) : Prop where
  before : beforeArtifact job.state = true → job.artifactId = none
  implied : impliesArtifact job.state = true → job.artifactId ≠ none

section Fits

variable {now timestamp : Millis} {s s' : Store} {op : Op} {job job' : JobRow}

theorem ArtifactFits.of_failed (h : job.state = .interrupted ∨ job.state = .failed) :
    ArtifactFits job := by
  rcases h with h | h
  · exact ⟨fun hbefore => absurd hbefore (by rw [h]; decide),
      fun himplied => absurd himplied (by rw [h]; decide)⟩
  · exact ⟨fun hbefore => absurd hbefore (by rw [h]; decide),
      fun himplied => absurd himplied (by rw [h]; decide)⟩

/-- The artifact fits to another state of the same kind. -/
theorem ArtifactFits.congr (h : ArtifactFits job) (hid : job'.artifactId = job.artifactId)
    (hbefore : beforeArtifact job'.state = true → beforeArtifact job.state = true)
    (himplied : impliesArtifact job'.state = true → impliesArtifact job.state = true) :
    ArtifactFits job' :=
  ⟨fun hstate => hid.trans (h.before (hbefore hstate)),
    fun hstate => hid ▸ h.implied (himplied hstate)⟩

theorem beforeArtifact_eq_false {state : JobState} (h : state.isDerived) :
    beforeArtifact state = false := by
  revert h
  rcases state <;> decide

theorem ArtifactFits.rederived (h : ArtifactFits job) (states : List DeviceState) :
    ArtifactFits (rederivedJob timestamp states job) := by
  have hid := rederivedJob_artifactId timestamp states job
  have hstate := rederivedJob_state timestamp states job
  by_cases hskip : rederiveSkips job.state
  · rw [if_pos hskip] at hstate
    exact h.congr hid (by rw [hstate]; exact id) (by rw [hstate]; exact id)
  · rw [if_neg hskip] at hstate
    have himplied : impliesArtifact job.state = true := by
      revert hskip
      rcases job.state <;> decide
    rcases hderived : deriveDispatchedJobState states with _ | derived
    · rw [hderived, Option.getD_none] at hstate
      exact h.congr hid (by rw [hstate]; exact id) (by rw [hstate]; exact id)
    · rw [hderived, Option.getD_some] at hstate
      have hkind := beforeArtifact_eq_false (deriveDispatchedJobState_isDerived hderived)
      refine h.congr hid (fun hbefore => ?_) fun _ => himplied
      rw [hstate, hkind] at hbefore
      exact absurd hbefore Bool.false_ne_true

/-- Every change of a job keeps the fit. -/
theorem JobChange.artifactFits (hchange : JobChange now s s' job op job')
    (h : ArtifactFits job) : ArtifactFits job' := by
  cases hchange with
  | same => exact h
  | edit hrows edit =>
    cases edit with
    | uploadStarted hstate =>
      exact h.congr rfl (fun _ => by rw [hstate]; rfl) fun himplied =>
        absurd himplied (show ¬ impliesArtifact .uploading = true by decide)
    | uploadNotStarted => exact .of_failed (.inl rfl)
    | expired => exact .of_failed (.inl rfl)
    | packagingStarted hstate =>
      exact h.congr rfl (fun _ => by rw [hstate]; rfl) fun himplied =>
        absurd himplied (show ¬ impliesArtifact .packaging = true by decide)
    | preDispatchFailed hfailed => exact .of_failed hfailed.symm
    | gateOpened hstate =>
      have himplied : impliesArtifact job.state = true := by
        rcases hstate with hstate | hstate | hstate
        · rw [hstate]; rfl
        · rw [hstate]; rfl
        · rw [hstate]; rfl
      refine h.congr rfl (fun hbefore => ?_) fun _ => himplied
      simp only [gateOpened] at hbefore
      split at hbefore
      · exact absurd hbefore (by decide)
      · exact hbefore
  | published hrows hstate =>
    exact ⟨fun hbefore => absurd hbefore (by simp only [artifactReady]; decide),
      fun _ => Option.some_ne_none _⟩
  | touched =>
    rename_i timestamp
    have hbumped : ArtifactFits (bumpedJob timestamp job) := h.congr rfl id id
    exact hbumped.rederived _
  | bumped => exact h.congr rfl id id
  | recovered =>
    refine ArtifactFits.rederived ?_ _
    rcases recoverJob_cases now job with hrec | ⟨hinterrupted, -⟩ | ⟨hrec, -⟩
    · rw [hrec]
      exact h
    · exact .of_failed (.inl hinterrupted)
    · rw [hrec]
      exact h.congr rfl id id
  | artifactMissing => exact .of_failed (.inr rfl)

end Fits

/-- Every artifact belongs to one job, and a job that is dispatched has one. -/
structure Owned (s : Store) : Prop where
  fits : ∀ {k job}, s.job? k = some job → ArtifactFits job
  owner : ∀ {id artifact}, s.artifacts.find? id = some artifact →
    ∃ k job, s.job? k = some job ∧ job.artifactId = some id
  unique : ∀ {k job k' job' id}, s.job? k = some job → job.artifactId = some id →
    s.job? k' = some job' → job'.artifactId = some id → k = k'

theorem Owned.initial : Owned initial where
  fits h := absurd h (by simp [job?, Store.initial])
  owner h := absurd h (by simp [Store.initial])
  unique h := absurd h (by simp [job?, Store.initial])

section Effects

variable {now : Millis} {s s' : Store} {op : Op}

/-- An artifact was there before, or is the one that is published. -/
theorem Effect.artifact_cases (e : Effect now s op s') {id : String} {row : ArtifactRow}
    (h : s'.artifacts.find? id = some row) :
    s.artifacts.find? id = some row ∨
      ∃ jobId job artifact, op = .publishArtifact jobId artifact ∧ row = artifact.row now ∧
        id = artifact.artifactId ∧ s.artifacts.find? id = none ∧ s.job? jobId = some job ∧
        job.state = .packaging ∧ ∃ job', s'.job? jobId = some job' ∧ job'.artifactId = some id := by
  cases e with
  | publish hjob hstate hnew hrows =>
    rename_i job artifact artifacts
    have hfind := (Table.find?_append hnew hrows id).symm.trans h
    split at hfind
    · rename_i hid
      subst hid
      refine .inr ⟨job.jobId, job, artifact, rfl, (Option.some.inj hfind).symm, rfl, hnew, hjob,
        hstate, artifactReady now artifact.artifactId job, ?_, rfl⟩
      exact job?_updateJob_self.trans (congrArg _ hjob)
    · exact .inl hfind
  | unconfirm hrow hstate ht hdue =>
    rw [ht] at h
    exact .inl h
  | fenceUnknown hnew ht =>
    rw [ht] at h
    exact .inl h
  | recover ht =>
    rw [ht] at h
    exact .inl h
  | artifactsFailed hf =>
    rw [hf.artifacts] at h
    exact .inl h
  | row hrow edit =>
    rename_i drop hf
    cases drop <;> exact .inl h
  | _ => exact .inl h

/-- `publish_artifact` changes nothing, or gives a new artifact to a job that is packaging. -/
theorem Effect.published {jobId : JobId} {artifact : PublishedArtifact}
    (e : Effect now s (.publishArtifact jobId artifact) s') :
    s' = s ∨ (s.artifacts.find? artifact.artifactId = none ∧
      ∀ job, s.job? jobId = some job → job.state = .packaging) := by
  generalize hop : Op.publishArtifact jobId artifact = op at e
  cases e with
  | same => exact .inl rfl
  | publish hjob hstate hnew hrows =>
    cases hop
    refine .inr ⟨hnew, fun job hjob' => ?_⟩
    rw [hjob, Option.some.injEq] at hjob'
    rw [← hjob', hstate]
  | job hjob edit =>
    subst hop
    cases edit
  | row hrow edit =>
    subst hop
    cases edit
  | clear hfence hclear hids =>
    subst hop
    cases hclear
  | _ => cases hop

/-- A reference to an artifact was there before, or is that of the artifact that is published. -/
theorem Effect.reference_cases (e : Effect now s op s') {k : JobId} {job' : JobRow} {id : String}
    (hjob' : s'.job? k = some job') (hid : job'.artifactId = some id) :
    (∃ job, s.job? k = some job ∧ job.artifactId = some id) ∨
      ((∃ artifact, op = .publishArtifact k artifact) ∧ s.artifacts.find? id = none) := by
  rcases e.job_cases hjob' with ⟨job, hjob, hchange⟩ | ⟨request, protocols, timeout, -, rfl⟩
  · rcases hchange.artifactId_eq with heq | ⟨artifact, rfl, heq⟩
    · exact .inl ⟨job, hjob, heq.symm.trans hid⟩
    · obtain rfl := jobId_of_job? hjob
      rcases e.published with rfl | ⟨hnew, -⟩
      · exact .inl ⟨job', hjob', hid⟩
      · obtain rfl := Option.some.inj (heq.symm.trans hid)
        exact .inr ⟨⟨artifact, rfl⟩, hnew⟩
  · exact absurd hid (by simp [newJobRow])

/-- **Artifacts keep their jobs.** -/
theorem Owned.effect (hwf : WellFormed s) (ho : Owned s) (e : Effect now s op s') : Owned s' where
  fits := by
    intro k job' hjob'
    rcases e.job_cases hjob' with ⟨job, hjob, hchange⟩ | ⟨request, protocols, timeout, -, rfl⟩
    · exact hchange.artifactFits (ho.fits hjob)
    · exact ⟨fun _ => rfl, fun himplied =>
        absurd himplied (show ¬ impliesArtifact .created = true by decide)⟩
  owner := by
    intro id artifact hartifact
    rcases e.artifact_cases hartifact with hold | ⟨jobId, -, -, -, -, -, -, -, -, job', hjob', hid⟩
    · obtain ⟨k, job, hjob, hid⟩ := ho.owner hold
      obtain ⟨job', hjob', hchange⟩ := e.jobChange hjob
      refine ⟨k, job', hjob', ?_⟩
      rcases hchange.artifactId_eq with heq | ⟨published, rfl, heq⟩
      · rw [heq, hid]
      · obtain rfl := jobId_of_job? hjob
        rcases e.published with rfl | ⟨-, hpackaging⟩
        · rw [hjob, Option.some.injEq] at hjob'
          rw [← hjob', hid]
        · -- a job that is packaging has no artifact yet
          have hnone := (ho.fits hjob).before (by rw [hpackaging job hjob]; rfl)
          rw [hnone] at hid
          exact absurd hid.symm (Option.some_ne_none id)
    · exact ⟨jobId, job', hjob', hid⟩
  unique := by
    intro k job k' job' id hjob hid hjob' hid'
    -- a job that was there names an artifact that was there
    have hknown : ∀ {k job}, s.job? k = some job → job.artifactId = some id →
        s.artifacts.find? id ≠ none := by
      intro k job hold hid
      obtain ⟨artifact, hartifact⟩ := hwf.artifactOfJob hold hid
      rw [hartifact]
      exact Option.some_ne_none artifact
    rcases e.reference_cases hjob hid with ⟨old, hold, hidOld⟩ | ⟨⟨artifact, rfl⟩, hnew⟩
    · rcases e.reference_cases hjob' hid' with ⟨old', hold', hidOld'⟩ | ⟨-, hnew⟩
      · exact ho.unique hold hidOld hold' hidOld'
      · exact absurd hnew (hknown hold hidOld)
    · rcases e.reference_cases hjob' hid' with ⟨old', hold', hidOld'⟩ | ⟨⟨artifact', hop⟩, -⟩
      · exact absurd hnew (hknown hold' hidOld')
      · exact (Op.publishArtifact.inj hop).1

/-- Only `publish_artifact` changes the table. -/
theorem Effect.artifacts_eq (e : Effect now s op s')
    (hop : ∀ jobId artifact, op ≠ .publishArtifact jobId artifact) (id : String) :
    s'.artifacts.find? id = s.artifacts.find? id := by
  rcases hnew : s'.artifacts.find? id with _ | row
  · rcases hold : s.artifacts.find? id with _ | row
    · rfl
    · exact absurd (hnew.symm.trans (e.artifact_mono hold)) (by simp)
  · rcases e.artifact_cases hnew with hold | ⟨jobId, -, artifact, heq, -⟩
    · exact hold.symm
    · exact absurd heq (hop jobId artifact)

/-- No job comes back to `created`. -/
theorem JobChange.state_ne_created {job job' : JobRow} (h : JobChange now s s' job op job')
    (hne : job.state ≠ .created) : job'.state ≠ .created := by
  have hrederived : ∀ {timestamp states} {job : JobRow}, job.state ≠ .created →
      (rederivedJob timestamp states job).state ≠ .created := by
    intro timestamp states job hne
    rw [rederivedJob_state]
    split
    · exact hne
    · rcases hderived : deriveDispatchedJobState states with _ | derived
      · exact hne
      · intro hcreated
        have hkind := deriveDispatchedJobState_isDerived hderived
        rw [Option.getD_some] at hcreated
        rw [hcreated] at hkind
        exact absurd hkind (by decide)
  cases h with
  | same => exact hne
  | edit hrows edit =>
    cases edit with
    | uploadStarted => exact show JobState.uploading ≠ .created by decide
    | uploadNotStarted => exact show JobState.interrupted ≠ .created by decide
    | expired => exact show JobState.interrupted ≠ .created by decide
    | packagingStarted => exact show JobState.packaging ≠ .created by decide
    | preDispatchFailed hfailed =>
      rcases hfailed with rfl | rfl
      · exact show JobState.failed ≠ .created by decide
      · exact show JobState.interrupted ≠ .created by decide
    | gateOpened =>
      simp only [gateOpened]
      split
      · exact show JobState.running ≠ .created by decide
      · exact hne
  | published => exact show JobState.ready ≠ .created by decide
  | touched =>
    rename_i timestamp
    have hbumped : (bumpedJob timestamp job).state ≠ .created := hne
    exact hrederived hbumped
  | bumped => exact hne
  | recovered =>
    refine hrederived ?_
    rcases recoverJob_cases now job with hrec | ⟨hinterrupted, -⟩ | ⟨hrec, -⟩
    · rw [hrec]
      exact hne
    · rw [hinterrupted]
      exact show JobState.interrupted ≠ .created by decide
    · rw [hrec]
      exact hne
  | artifactMissing => exact show JobState.failed ≠ .created by decide

/-- The job of an upload that has started. -/
def UploadStarted (s : Store) (jobId : JobId) : Prop :=
  ∃ job, s.job? jobId = some job ∧ job.state ≠ .created

theorem UploadStarted.effect {jobId : JobId} (h : UploadStarted s jobId) (e : Effect now s op s') :
    UploadStarted s' jobId := by
  obtain ⟨job, hjob, hne⟩ := h
  obtain ⟨job', hjob', hchange⟩ := e.jobChange hjob
  exact ⟨job', hjob', hchange.state_ne_created hne⟩

/-- `start_upload` starts the upload of a job that is just created. -/
theorem startUpload_started {jobId : JobId} {snapshot : JobSnapshot}
    (h : s.startUpload now jobId = .ok (s', .started snapshot)) :
    ¬ UploadStarted s jobId ∧ UploadStarted s' jobId := by
  rw [startUpload] at h
  split at h
  · exact absurd h (by simp)
  · rename_i job hjob
    split_ifs at h with hstate hdeadline
    · obtain ⟨snapshot', -, h⟩ := Except.bind_eq_ok.mp h
      exact absurd (congrArg Prod.snd (Except.ok.inj h)) (by simp)
    · obtain ⟨snapshot', -, h⟩ := Except.bind_eq_ok.mp h
      obtain rfl := congrArg Prod.fst (Except.ok.inj h)
      rw [not_not] at hstate
      constructor
      · rintro ⟨job', hjob', hne⟩
        rw [hjob, Option.some.injEq] at hjob'
        exact hne (hjob' ▸ hstate)
      · refine ⟨uploadStarted now job, ?_, show JobState.uploading ≠ .created by decide⟩
        exact job?_updateJob_self.trans (congrArg _ hjob)

end Effects

end Store

end StylyMdm.PushJobs
