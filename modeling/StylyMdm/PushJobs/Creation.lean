import StylyMdm.PushJobs.NormalForm
import StylyMdm.PushJobs.WellFormed

/-!
# Creating jobs

`create_job_handler`: the body is canonicalised, an existing job of the request is looked up, the
targets are checked against the live connections, and the job is created. The lookup and the
creation are transactions of their own, so calls of the handler interleave between them, with each
other and with every other operation of the store. What the check of the targets reads is given by
the step that makes it: connections come and go between any two steps.

`OncePerRequest` is the invariant of the store: one job for each request id. Jobs are never removed
and keep their request. `Following` relates one call to the job of its request as a run goes on. A
call that has not looked up yet will be answered with this job, or with a conflict (`Follows`). One
that looked too early is overtaken (`Overtaken`): `create_job` itself catches it, which looks again,
unless the check of its targets refuses it before it gets there.

`creation_idempotent` is about all interleavings of any number of calls. The last run has two equal
requests: both find nothing, the first creates the job, and the second is refused because the device
has gone offline in between.
-/

namespace StylyMdm.PushJobs

open Text Py

namespace Store

/-- `find_idempotent_job`. -/
def findIdempotentJob (s : Store) (clientRequestId requestFingerprint : String) :
    Except StoreError (Option JobSnapshot) :=
  match s.jobs.rows.find? fun job => job.clientRequestId = clientRequestId with
  | none => .ok none
  | some job =>
    if job.requestFingerprint ≠ requestFingerprint then
      .error (.conflict "client_request_id is already associated with a different request")
    else (s.snapshot job.jobId).map some

end Store

/-! ### The check of the targets -/

/-- What the check reads of one device: its record in the registry, its entry among the connected
devices, and the capabilities of its dispatch session. -/
structure LiveTarget where
  retired : Bool := false
  recordKind : Option (Option String) := none
  entryKind : Option (Option String) := none
  capabilities : Option (List String) := none

/-- The settings of the server that the check reads. -/
structure CreateSettings where
  maxBundleEntries : Nat
  maxBundleSize : Nat
  allowLegacy : Bool
  createTimeoutMs : Nat

/-- The check of one target: the protocol it will be addressed with, and its capabilities. -/
def checkTarget (allowLegacy : Bool) (deviceId : DeviceId) (target : LiveTarget) :
    Except Refused (ProtocolMode × List String) :=
  if target.retired then .error (.invalid ("target device is retired: " ++ deviceId))
  -- `(entry or record or {}).get("identity_kind")`
  else if (target.entryKind.or target.recordKind).join = some "legacy" then
    .error (.invalid ("legacy device only supports APK installation/update: " ++ deviceId))
  else
    match target.capabilities with
    | none => .error (.invalid ("target device is not online: " ++ deviceId))
    | some capabilities =>
      if "push_job_id_v1" ∈ capabilities then .ok (.jobV1, capabilities)
      else if allowLegacy then .ok (.legacy, capabilities)
      else .error (.invalid ("target does not support push_job_id_v1: " ++ deviceId))

/-- The checks between the lookup and the creation. -/
def checkRequest (settings : CreateSettings) (live : DeviceId → LiveTarget)
    (request : CanonicalCreateRequest) :
    Except Refused (List (DeviceId × ProtocolMode × List String)) :=
  if request.source.declaredFileCount > settings.maxBundleEntries then
    .error (.invalid "declared file count exceeds the server limit")
  else if request.source.declaredTotalBytes > settings.maxBundleSize then
    .error (.invalid "declared total bytes exceed the server limit")
  else request.targetDevices.mapM fun deviceId =>
    (checkTarget settings.allowLegacy deviceId (live deviceId)).map fun protocol =>
      (deviceId, protocol)

/-! ### Answers -/

/-- `_create_response`. -/
structure CreateResponse where
  jobId : JobId
  revision : Nat
  state : JobState
  createExpiresAt : Millis
  uploadUrl : String
  targets : List (DeviceId × ProtocolMode)
deriving DecidableEq

/-- The response of `create_handler`. -/
def createResponse (snapshot : Store.JobSnapshot) : CreateResponse where
  jobId := snapshot.jobId
  revision := snapshot.revision
  state := snapshot.state
  createExpiresAt := snapshot.createExpiresAt
  uploadUrl := "/api/push-jobs/" ++ snapshot.jobId ++ "/upload"
  targets := snapshot.devices.map fun device => (device.deviceId, device.protocolMode)

/-- The response of the handler: status 200, 201, 409, 422 or 500. -/
inductive Answer
  | found (response : CreateResponse)
  | created (response : CreateResponse)
  | conflict (message : String)
  | refused (reason : Refused)
  | failed (error : StoreError)
deriving DecidableEq

/-- What an exception of the store is answered with. -/
def answerOf : StoreError → Answer
  | .conflict message => .conflict message
  | .invalidTransition message | .pushJobError message | .valueError message =>
    .refused (.invalid message)
  | error => .failed error

/-! ### Calls of the handler -/

/-- Where a call of the handler stands: before its lookup, before the check of its targets, before
its creation, or done. -/
inductive CreateCall
  | looking (request : CanonicalCreateRequest)
  | missed (request : CanonicalCreateRequest)
  | creating (request : CanonicalCreateRequest)
      (protocols : List (DeviceId × ProtocolMode × List String))
  | answered (answer : Answer)
deriving DecidableEq

/-- The store, and the calls of the handler in the order of their arrival. -/
structure Creation where
  store : Store
  calls : List CreateCall

/-- No job and no request. -/
def Creation.initial : Creation := ⟨Store.initial, []⟩

/-- The steps: a call arrives, a call goes on, or another operation of the store runs. -/
inductive CreateStep
  | receive (body : Value)
  | lookup (call : Nat)
  | check (call : Nat) (live : DeviceId → LiveTarget)
  | create (call : Nat) (now : Millis) (jobId : JobId)
  | other (now : Millis) (op : Op)

/-- Is the operation `create_job`? Only the handler calls it. -/
def Op.isCreateJob : Op → Bool
  | .createJob .. => true
  | _ => false

section Steps

variable (decimal : Point → Option (Fin 10)) (sha256 : ByteArray → String)
  (settings : CreateSettings) (indexed : Bool)

/-- The call of a body. -/
def receiveCall (body : Value) : CreateCall :=
  if !body.isObj then .answered (.refused (.invalid "request body must be a JSON object"))
  else
    match canonicalizeCreateRequest decimal sha256 body with
    | .ok request => .looking request
    | .error reason => .answered (.refused reason)

/-- The call after its lookup. -/
def lookupCall (s : Store) (request : CanonicalCreateRequest) : CreateCall :=
  match s.findIdempotentJob request.clientRequestId request.fingerprint with
  | .ok (some snapshot) => .answered (.found (createResponse snapshot))
  | .ok none => .missed request
  | .error error => .answered (answerOf error)

/-- The call after the check of its targets. -/
def checkCall (live : DeviceId → LiveTarget) (request : CanonicalCreateRequest) : CreateCall :=
  match checkRequest settings live request with
  | .ok protocols => .creating request protocols
  | .error reason => .answered (.refused reason)

/-- The store and the call after the creation. -/
def createCall (s : Store) (now : Millis) (jobId : JobId) (request : CanonicalCreateRequest)
    (protocols : List (DeviceId × ProtocolMode × List String)) : Store × CreateCall :=
  match s.createJob now jobId request (fun deviceId => List.lookup deviceId protocols)
      settings.createTimeoutMs with
  | .ok (store, isNew, snapshot) =>
    (store, .answered
      (if isNew then .created (createResponse snapshot) else .found (createResponse snapshot)))
  | .error error => (s, .answered (answerOf error))

/-- One step. A label that does not fit the call changes nothing. -/
def Creation.step (s : Creation) : CreateStep → Creation
  | .receive body => { s with calls := s.calls ++ [receiveCall decimal sha256 body] }
  | .lookup call =>
    match s.calls[call]? with
    | some (.looking request) => { s with calls := s.calls.set call (lookupCall s.store request) }
    | _ => s
  | .check call live =>
    match s.calls[call]? with
    | some (.missed request) =>
      { s with calls := s.calls.set call (checkCall settings live request) }
    | _ => s
  | .create call now jobId =>
    match s.calls[call]? with
    | some (.creating request protocols) =>
      let result := createCall settings s.store now jobId request protocols
      { store := result.1, calls := s.calls.set call result.2 }
    | _ => s
  | .other now op =>
    if op.isCreateJob then s else { s with store := s.store.step indexed (now, op) }

end Steps

/-! ### One job per request -/

namespace Store

section Stable

variable {now : Millis} {s s' : Store} {op : Op}

/-- No operation changes the request of a job. -/
theorem JobChange.request_eq {job job' : JobRow} (h : JobChange now s s' job op job') :
    job'.clientRequestId = job.clientRequestId ∧
      job'.requestFingerprint = job.requestFingerprint := by
  have hderived : ∀ timestamp states (job : JobRow),
      (rederivedJob timestamp states job).requestFingerprint = job.requestFingerprint := by
    intro timestamp states job
    unfold rederivedJob
    repeat' split
    all_goals rfl
  cases h with
  | edit hrows edit => cases edit <;> exact ⟨rfl, rfl⟩
  | touched => exact ⟨rederivedJob_clientRequestId _ _ _, hderived _ _ _⟩
  | recovered =>
    refine ⟨(rederivedJob_clientRequestId _ _ _).trans ?_, (hderived _ _ _).trans ?_⟩
    · unfold recoverJob
      split
      · split <;> rfl
      all_goals rfl
    · unfold recoverJob
      split
      · split <;> rfl
      all_goals rfl
  | _ => exact ⟨rfl, rfl⟩

/-- Only `create_job` draws values of `enqueue_seq`. -/
theorem Effect.nextEnqueueSeq_eq (e : Effect now s op s') (hop : op.isCreateJob = false) :
    s'.nextEnqueueSeq = s.nextEnqueueSeq := by
  cases e with
  | create hnew hrequest hjobs hrows hdevices => exact absurd hop (by simp [Op.isCreateJob])
  | unconfirm hrow hstate ht hdue => rw [ht]; rfl
  | fenceUnknown hnew ht => rw [ht]; rfl
  | recover ht => rw [ht]; rfl
  | artifactsFailed h => exact h.nextEnqueueSeq
  | row hrow edit =>
    rename_i drop hf
    cases drop <;> rfl
  | _ => rfl

end Stable

/-- A store in which every request has at most one job, and the values of `enqueue_seq` that were
drawn are those of its rows, without a gap. -/
structure OncePerRequest (s : Store) : Prop where
  wellFormed : WellFormed s
  once : ∀ {k k' job job'}, s.job? k = some job → s.job? k' = some job' →
    job.clientRequestId = job'.clientRequestId → k = k'
  nextPos : 1 ≤ s.nextEnqueueSeq
  seqPos : ∀ {k d row}, s.device? k d = some row → 1 ≤ row.enqueueSeq
  seqs : ∀ n, 1 ≤ n → n < s.nextEnqueueSeq →
    ∃ k d row, s.device? k d = some row ∧ row.enqueueSeq = n

theorem OncePerRequest.initial : OncePerRequest initial where
  wellFormed := .initial
  once h := absurd h (by simp [job?, Store.initial])
  nextPos := le_rfl
  seqPos h := absurd h (by simp [device?, Store.initial])
  seqs n hpos hlt := by
    change n < 1 at hlt
    omega

/-- An operation other than `create_job` keeps the jobs and the drawn values. -/
theorem OncePerRequest.effect {now : Millis} {s s' : Store} {op : Op} (h : OncePerRequest s)
    (e : Effect now s op s') (hop : op.isCreateJob = false) : OncePerRequest s' := by
  have hjold : ∀ {k job'}, s'.job? k = some job' →
      ∃ job, s.job? k = some job ∧ JobChange now s s' job op job' := by
    intro k job' hjob'
    rcases e.job_cases hjob' with hold | ⟨request, protocols, timeout, rfl, -⟩
    · exact hold
    · exact absurd hop (by simp [Op.isCreateJob])
  have hold : ∀ {k d row'}, s'.device? k d = some row' →
      ∃ row, s.device? k d = some row ∧ RowChange now s row op row' := by
    intro k d row' hrow'
    rcases e.row_cases hrow' with hold | ⟨request, protocols, timeout, rfl, -⟩
    · exact hold
    · exact absurd hop (by simp [Op.isCreateJob])
  have hnext := e.nextEnqueueSeq_eq hop
  refine ⟨h.wellFormed.effect e, ?_, ?_, ?_, ?_⟩
  · intro k k' job₁ job₂ hjob₁ hjob₂ heq
    obtain ⟨job, hjob, hchange⟩ := hjold hjob₁
    obtain ⟨job', hjob', hchange'⟩ := hjold hjob₂
    rw [hchange.request_eq.1, hchange'.request_eq.1] at heq
    exact h.once hjob hjob' heq
  · rw [hnext]
    exact h.nextPos
  · intro k d row' hrow'
    obtain ⟨row, hrow, hchange⟩ := hold hrow'
    rw [hchange.enqueueSeq_eq]
    exact h.seqPos hrow
  · intro n hpos hlt
    rw [hnext] at hlt
    obtain ⟨k, d, row, hrow, hseq⟩ := h.seqs n hpos hlt
    obtain ⟨row', hrow', hchange⟩ := e.rowChange hrow
    exact ⟨k, d, row', hrow', hchange.enqueueSeq_eq.trans hseq⟩

/-- What `create_job` returns: the job of an earlier equal request and the store as it was, or a
new job with one row for each target. -/
theorem createJob_cases {s : Store} {now : Millis} {jobId : JobId}
    {request : CanonicalCreateRequest}
    {targetProtocols : DeviceId → Option (ProtocolMode × List String)} {timeout : Nat}
    {r : Store × Bool × JobSnapshot}
    (h : s.createJob now jobId request targetProtocols timeout = .ok r) :
    (r.1 = s ∧ r.2.1 = false ∧ ∃ job, s.jobs.rows.find? (fun job =>
        job.clientRequestId = request.clientRequestId) = some job ∧
      job.requestFingerprint = request.fingerprint ∧ s.snapshot job.jobId = .ok r.2.2) ∨
    (r.2.1 = true ∧ s.job? jobId = none ∧
      (∀ job ∈ s.jobs.rows, job.clientRequestId ≠ request.clientRequestId) ∧
      ∃ jobs devices rows, jobs.rows = s.jobs.rows ++ [newJobRow now jobId request timeout] ∧
        TargetRows now jobId s.nextEnqueueSeq 0 request.targetDevices rows ∧
        devices.rows = s.devices.rows ++ rows ∧
        r.1 = { s with
          jobs, devices, nextEnqueueSeq := s.nextEnqueueSeq + request.targetDevices.length } ∧
        r.1.snapshot jobId = .ok r.2.2) := by
  rw [createJob] at h
  split at h
  · rename_i job hjob
    split at h
    · exact absurd h (by simp)
    · rename_i hfingerprint
      obtain ⟨shown, hshown, hr⟩ := Except.bind_eq_ok.mp h
      cases hr
      exact .inl ⟨rfl, rfl, job, hjob, not_not.mp hfingerprint, hshown⟩
  · rename_i hrequest
    split at h
    · exact absurd h (by simp)
    · rename_i jobs hjobs
      obtain ⟨t, ht, h⟩ := Except.bind_eq_ok.mp h
      obtain ⟨shown, hshown, hr⟩ := Except.bind_eq_ok.mp h
      cases hr
      obtain ⟨hnew, hadd⟩ := Table.insert?_eq_some.mp hjobs
      obtain ⟨rows, hrows, devices, hdev, rfl⟩ := insertTargets_spec ht
      refine .inr ⟨rfl, hnew, ?_, jobs, devices, rows, hadd, hrows, hdev, rfl, hshown⟩
      intro job hjob
      simpa using List.find?_eq_none.mp hrequest job hjob

/-- Nor does `create_job` give a request a second job, or leave a gap. -/
theorem OncePerRequest.createJob {s : Store} {now : Millis} {jobId : JobId}
    {request : CanonicalCreateRequest}
    {targetProtocols : DeviceId → Option (ProtocolMode × List String)} {timeout : Nat}
    {r : Store × Bool × JobSnapshot} (h : OncePerRequest s)
    (hok : s.createJob now jobId request targetProtocols timeout = .ok r) :
    OncePerRequest r.1 := by
  have hwf := h.wellFormed.effect (createJob_effect hok)
  rcases createJob_cases hok with ⟨hsame, -⟩ |
    ⟨-, hnew, hrequest, jobs, devices, rows, hjobs, hrows, hdevices, hstore, -⟩
  · rw [hsame]
    exact h
  · have hjob : ∀ {k}, r.1.job? k =
        if k = jobId then some (newJobRow now jobId request timeout) else s.job? k := by
      intro k
      have hnew' : s.job? (newJobRow now jobId request timeout).jobId = none := hnew
      rw [hstore]
      exact job?_append hnew' hjobs
    have hdev : ∀ {k d row}, r.1.device? k d = some row ↔
        s.device? k d = some row ∨ (row ∈ rows ∧ row.key = (k, d)) := by
      intro k d row
      rw [hstore]
      exact device?_append hdevices
    have hnext : r.1.nextEnqueueSeq = s.nextEnqueueSeq + request.targetDevices.length := by
      rw [hstore]
    have hseqs : rows.map DeviceRow.enqueueSeq =
        List.range' s.nextEnqueueSeq request.targetDevices.length := hrows.seqs
    refine ⟨hwf, ?_, ?_, ?_, ?_⟩
    · intro k k' job job' hk hk' heq
      have hfresh : ∀ {k job}, s.job? k = some job →
        job.clientRequestId ≠ request.clientRequestId := by
        intro k job hk
        obtain rfl := jobId_of_job? hk
        exact hrequest job (mem_jobs.mpr hk)
      rw [hjob] at hk hk'
      split_ifs at hk hk' with hkey hkey' hkey'
      · rw [hkey, hkey']
      · rw [← Option.some.inj hk] at heq
        exact absurd heq.symm (hfresh hk')
      · rw [← Option.some.inj hk'] at heq
        exact absurd heq (hfresh hk)
      · exact h.once hk hk' heq
    · have hpos := h.nextPos
      omega
    · intro k d row hrow
      rcases hdev.mp hrow with hold | ⟨hmem, -⟩
      · exact h.seqPos hold
      · have hseq := List.mem_map_of_mem (f := DeviceRow.enqueueSeq) hmem
        rw [hseqs, List.mem_range'_1] at hseq
        have hpos := h.nextPos
        omega
    · intro n hpos hlt
      by_cases hold : n < s.nextEnqueueSeq
      · obtain ⟨k, d, row, hrow, hseq⟩ := h.seqs n hpos hold
        exact ⟨k, d, row, hdev.mpr (.inl hrow), hseq⟩
      · have hin : n ∈ rows.map DeviceRow.enqueueSeq := by
          rw [hseqs, List.mem_range'_1]
          omega
        obtain ⟨row, hmem, hseq⟩ := List.mem_map.mp hin
        exact ⟨row.jobId, row.deviceId, row, hdev.mpr (.inr ⟨hmem, rfl⟩), hseq⟩

/-- The job that a lookup by request finds. -/
theorem OncePerRequest.find_eq {s : Store} (h : OncePerRequest s) {job : JobRow}
    (hjob : job ∈ s.jobs.rows) {clientRequestId : String}
    (hid : job.clientRequestId = clientRequestId) :
    s.jobs.rows.find? (fun job => job.clientRequestId = clientRequestId) = some job := by
  obtain ⟨job', hfind⟩ : ∃ job', s.jobs.rows.find? (fun job =>
      job.clientRequestId = clientRequestId) = some job' := by
    rw [← Option.isSome_iff_exists, List.find?_isSome]
    exact ⟨job, hjob, by simpa using hid⟩
  have hid' : job'.clientRequestId = clientRequestId := by simpa using List.find?_some hfind
  have hmem' := mem_jobs.mp (List.mem_of_find?_eq_some hfind)
  have hkey := h.once (mem_jobs.mp hjob) hmem' (hid.trans hid'.symm)
  rw [← hkey, mem_jobs.mp hjob] at hmem'
  rw [hfind, Option.some.inj hmem']

theorem snapshot_of_mem {s : Store} {job : JobRow} (h : job ∈ s.jobs.rows) :
    s.snapshot job.jobId = .ok (s.jobSnapshot job) := by
  rw [snapshot, mem_jobs.mp h]

end Store

/-! ### The calls of the handler over a run -/

section Runs

variable {decimal : Point → Option (Fin 10)} {sha256 : ByteArray → String}
  {settings : CreateSettings} {indexed : Bool}

/-- What the lookup answers when the request has a job. -/
theorem lookupCall_of_mem {s : Store} (h : s.OncePerRequest) {job : JobRow}
    (hjob : job ∈ s.jobs.rows) {request : CanonicalCreateRequest}
    (hid : job.clientRequestId = request.clientRequestId) :
    lookupCall s request =
      if job.requestFingerprint = request.fingerprint then
        .answered (.found (createResponse (s.jobSnapshot job)))
      else .answered (.conflict
        "client_request_id is already associated with a different request") := by
  rw [lookupCall, Store.findIdempotentJob, h.find_eq hjob hid]
  by_cases hfingerprint : job.requestFingerprint = request.fingerprint
  · simp only [hfingerprint, ne_eq, not_true_eq_false, if_false, if_true,
      Store.snapshot_of_mem hjob, Except.map]
  · simp only [hfingerprint, ne_eq, not_false_eq_true, if_true, if_false, answerOf]

/-- What the creation does when the request has a job. -/
theorem createCall_of_mem {s : Store} (h : s.OncePerRequest) {job : JobRow}
    (hjob : job ∈ s.jobs.rows) {request : CanonicalCreateRequest}
    (hid : job.clientRequestId = request.clientRequestId) (now : Millis) (jobId : JobId)
    (protocols : List (DeviceId × ProtocolMode × List String)) :
    createCall settings s now jobId request protocols =
      (s, if job.requestFingerprint = request.fingerprint then
        .answered (.found (createResponse (s.jobSnapshot job)))
      else .answered (.conflict "client_request_id was already used for a different request")) := by
  rw [createCall, Store.createJob, h.find_eq hjob hid]
  by_cases hfingerprint : job.requestFingerprint = request.fingerprint
  · simp only [hfingerprint, ne_eq, not_true_eq_false, if_false, if_true,
      Store.snapshot_of_mem hjob]
    rfl
  · simp only [hfingerprint, ne_eq, not_false_eq_true, if_true, if_false, answerOf]

/-- Every step keeps the invariant of the store. -/
theorem oncePerRequest_step {s : Creation} (h : s.store.OncePerRequest) (label : CreateStep) :
    (s.step decimal sha256 settings indexed label).store.OncePerRequest := by
  cases label with
  | receive body => exact h
  | lookup call =>
    rw [Creation.step]
    split <;> exact h
  | check call live =>
    rw [Creation.step]
    split <;> exact h
  | create call now jobId =>
    rw [Creation.step]
    split
    · simp only [createCall]
      split
      · rename_i store isNew snapshot hok
        exact h.createJob hok
      · exact h
    · exact h
  | other now op =>
    rw [Creation.step]
    split
    · exact h
    · rename_i hop
      exact h.effect (Store.step_effect indexed s.store (now, op)) (by simpa using hop)

/-- Every step keeps the jobs, with their requests. -/
theorem job_of_step {s : Creation} (label : CreateStep) {job : JobRow}
    (hjob : job ∈ s.store.jobs.rows) :
    ∃ job' ∈ (s.step decimal sha256 settings indexed label).store.jobs.rows,
      job'.jobId = job.jobId ∧ job'.clientRequestId = job.clientRequestId ∧
        job'.requestFingerprint = job.requestFingerprint := by
  have hsame : ∃ job' ∈ s.store.jobs.rows, job'.jobId = job.jobId ∧
      job'.clientRequestId = job.clientRequestId ∧
        job'.requestFingerprint = job.requestFingerprint := ⟨job, hjob, rfl, rfl, rfl⟩
  have heffect : ∀ {now : Millis} {op : Op} {s' : Store}, Store.Effect now s.store op s' →
      ∃ job' ∈ s'.jobs.rows, job'.jobId = job.jobId ∧
        job'.clientRequestId = job.clientRequestId ∧
          job'.requestFingerprint = job.requestFingerprint := by
    intro now op s' e
    obtain ⟨job', hjob', hchange⟩ := e.jobChange (Store.mem_jobs.mp hjob)
    have hkey := Store.jobId_of_job? hjob'
    refine ⟨job', Store.mem_jobs.mpr (by rw [hkey]; exact hjob'), hkey, hchange.request_eq⟩
  cases label with
  | receive body => exact hsame
  | lookup call =>
    rw [Creation.step]
    split <;> exact hsame
  | check call live =>
    rw [Creation.step]
    split <;> exact hsame
  | create call now jobId =>
    rw [Creation.step]
    split
    · simp only [createCall]
      split
      · rename_i store isNew snapshot hok
        exact heffect (Store.createJob_effect hok)
      · exact hsame
    · exact hsame
  | other now op =>
    rw [Creation.step]
    split
    · exact hsame
    · exact heffect (Store.step_effect indexed s.store (now, op))

/-- A call of a request that has this job: not looked up yet, answered with the job, or answered
with a conflict. -/
def Follows (job : JobRow) (request : CanonicalCreateRequest) (call : CreateCall) : Prop :=
  call = .looking request ∨
    (job.requestFingerprint = request.fingerprint ∧
      ∃ response, call = .answered (.found response) ∧ response.jobId = job.jobId) ∨
    (job.requestFingerprint ≠ request.fingerprint ∧
      ∃ message, call = .answered (.conflict message))

/-- A call whose lookup came too early for this job of its request: under way, answered as `Follows`
has it, or refused by the check of its targets. -/
inductive Overtaken (settings : CreateSettings) (job : JobRow) (request : CanonicalCreateRequest) :
    CreateCall → Prop
  | missed : Overtaken settings job request (.missed request)
  | creating (protocols : List (DeviceId × ProtocolMode × List String)) :
    Overtaken settings job request (.creating request protocols)
  | found (response : CreateResponse) (hsame : job.requestFingerprint = request.fingerprint)
      (hid : response.jobId = job.jobId) :
    Overtaken settings job request (.answered (.found response))
  | conflict (message : String) (hother : job.requestFingerprint ≠ request.fingerprint) :
    Overtaken settings job request (.answered (.conflict message))
  | refused (live : DeviceId → LiveTarget) (reason : Refused)
      (hcheck : checkRequest settings live request = .error reason) :
    Overtaken settings job request (.answered (.refused reason))

/-- The state of one call, of which `P` holds, and the job of its request, as the run goes on. -/
structure Following (P : JobRow → CanonicalCreateRequest → CreateCall → Prop) (job : JobRow)
    (request : CanonicalCreateRequest) (i : Nat) (s : Creation) : Prop where
  stored : ∃ job' ∈ s.store.jobs.rows, job'.jobId = job.jobId ∧
    job'.clientRequestId = request.clientRequestId ∧
      job'.requestFingerprint = job.requestFingerprint
  follows : ∃ call, s.calls[i]? = some call ∧ P job request call

/-- What a call of the request does at its own steps, when its request has the job, keeps `P`. -/
structure Lasting (settings : CreateSettings) (s : Store)
    (P : JobRow → CanonicalCreateRequest → CreateCall → Prop) (job : JobRow)
    (request : CanonicalCreateRequest) : Prop where
  lookup : ∀ r, P job request (.looking r) → P job request (lookupCall s r)
  check : ∀ r live, P job request (.missed r) → P job request (checkCall settings live r)
  create : ∀ r protocols now jobId, P job request (.creating r protocols) →
    P job request (createCall settings s now jobId r protocols).2

theorem Following.step {P : JobRow → CanonicalCreateRequest → CreateCall → Prop} {job : JobRow}
    {request : CanonicalCreateRequest} {i : Nat} {s : Creation} (h : Following P job request i s)
    (hlasting : Lasting settings s.store P job request) (label : CreateStep) :
    Following P job request i (s.step decimal sha256 settings indexed label) := by
  obtain ⟨job', hjob', hkey, hid, hfingerprint⟩ := h.stored
  obtain ⟨call, hcall, hfollows⟩ := h.follows
  have hstored : ∃ job' ∈ (s.step decimal sha256 settings indexed label).store.jobs.rows,
      job'.jobId = job.jobId ∧ job'.clientRequestId = request.clientRequestId ∧
        job'.requestFingerprint = job.requestFingerprint := by
    obtain ⟨job'', hjob'', hkey', hid', hfingerprint'⟩ := job_of_step label hjob'
    exact ⟨job'', hjob'', hkey'.trans hkey, hid'.trans hid, hfingerprint'.trans hfingerprint⟩
  refine ⟨hstored, ?_⟩
  have hlt : i < s.calls.length := (List.getElem?_eq_some_iff.mp hcall).1
  have hsame : ∃ call, s.calls[i]? = some call ∧ P job request call := ⟨call, hcall, hfollows⟩
  -- a call elsewhere in the list does not change this one
  have hset : ∀ {j : Nat} {call' : CreateCall}, (j = i → P job request call') →
      ∃ call, (s.calls.set j call')[i]? = some call ∧ P job request call := by
    intro j call' hj
    by_cases heq : j = i
    · refine ⟨call', ?_, hj heq⟩
      rw [heq, List.getElem?_set_self hlt]
    · rw [List.getElem?_set_ne heq]
      exact hsame
  cases label with
  | receive body =>
    refine ⟨call, ?_, hfollows⟩
    rw [Creation.step, List.getElem?_append_left hlt]
    exact hcall
  | lookup j =>
    rw [Creation.step]
    split
    · rename_i request' hrequest'
      refine hset fun heq => hlasting.lookup request' ?_
      rw [heq, hcall, Option.some.injEq] at hrequest'
      rwa [hrequest'] at hfollows
    · exact hsame
  | check j live =>
    rw [Creation.step]
    split
    · rename_i request' hrequest'
      refine hset fun heq => hlasting.check request' live ?_
      rw [heq, hcall, Option.some.injEq] at hrequest'
      rwa [hrequest'] at hfollows
    · exact hsame
  | create j now jobId =>
    rw [Creation.step]
    split
    · rename_i request' protocols hrequest'
      refine hset fun heq => hlasting.create request' protocols now jobId ?_
      rw [heq, hcall, Option.some.injEq] at hrequest'
      rwa [hrequest'] at hfollows
    · exact hsame
  | other now op =>
    rw [Creation.step]
    split <;> exact hsame

/-- From before its lookup on, a call can only be answered with the job or with a conflict. -/
theorem lasting_follows {job : JobRow} {request : CanonicalCreateRequest} {s : Store}
    (hs : s.OncePerRequest) (hstored : ∃ job' ∈ s.jobs.rows, job'.jobId = job.jobId ∧
      job'.clientRequestId = request.clientRequestId ∧
        job'.requestFingerprint = job.requestFingerprint) :
    Lasting settings s Follows job request := by
  obtain ⟨job', hjob', hkey, hid, hfingerprint⟩ := hstored
  refine ⟨?_, ?_, ?_⟩
  · intro r hfollows
    have hr : r = request := by simpa [Follows] using hfollows
    rw [hr, lookupCall_of_mem hs hjob' hid, hfingerprint]
    by_cases hsame : job.requestFingerprint = request.fingerprint
    · rw [if_pos hsame]
      exact .inr (.inl ⟨hsame, _, rfl, hkey⟩)
    · rw [if_neg hsame]
      exact .inr (.inr ⟨hsame, _, rfl⟩)
  · intro r live hfollows
    simp [Follows] at hfollows
  · intro r protocols now jobId hfollows
    simp [Follows] at hfollows

/-- After its lookup, the check of its targets may refuse it, too. -/
theorem lasting_overtaken {job : JobRow} {request : CanonicalCreateRequest} {s : Store}
    (hs : s.OncePerRequest) (hstored : ∃ job' ∈ s.jobs.rows, job'.jobId = job.jobId ∧
      job'.clientRequestId = request.clientRequestId ∧
        job'.requestFingerprint = job.requestFingerprint) :
    Lasting settings s (Overtaken settings) job request := by
  obtain ⟨job', hjob', hkey, hid, hfingerprint⟩ := hstored
  refine ⟨?_, ?_, ?_⟩
  · intro r hover
    cases hover
  · intro r live hover
    cases hover
    rw [checkCall]
    split
    · exact .creating _
    · rename_i reason hcheck
      exact .refused live reason hcheck
  · intro r protocols now jobId hover
    cases hover
    rw [createCall_of_mem hs hjob' hid, hfingerprint]
    by_cases hsame : job.requestFingerprint = request.fingerprint
    · rw [if_pos hsame]
      exact .found _ hsame hkey
    · rw [if_neg hsame]
      exact .conflict _ hsame

/-- A store call of a request: the lookup, or the creation. -/
inductive StoreCall (decimal : Point → Option (Fin 10)) (sha256 : ByteArray → String)
    (settings : CreateSettings) (indexed : Bool) (s : Creation) (i : Nat)
    (request : CanonicalCreateRequest) : Creation → Prop
  | lookup (h : s.calls[i]? = some (.looking request)) :
    StoreCall decimal sha256 settings indexed s i request
      (s.step decimal sha256 settings indexed (.lookup i))
  | create {protocols : List (DeviceId × ProtocolMode × List String)} {now : Millis} {jobId : JobId}
      (h : s.calls[i]? = some (.creating request protocols)) :
    StoreCall decimal sha256 settings indexed s i request
      (s.step decimal sha256 settings indexed (.create i now jobId))

/-- A store call of a request that has a job changes nothing, and answers with the job or with a
conflict. -/
theorem storeCall_of_mem {s s' : Creation} {i : Nat} {request : CanonicalCreateRequest}
    (hs : s.store.OncePerRequest) (h : StoreCall decimal sha256 settings indexed s i request s')
    {job : JobRow} (hjob : job ∈ s.store.jobs.rows)
    (hid : job.clientRequestId = request.clientRequestId) :
    s'.store = s.store ∧
      (job.requestFingerprint = request.fingerprint → ∃ response,
        s'.calls[i]? = some (.answered (.found response)) ∧ response.jobId = job.jobId) ∧
      (job.requestFingerprint ≠ request.fingerprint → ∃ message,
        s'.calls[i]? = some (.answered (.conflict message))) := by
  cases h with
  | lookup h =>
    have hlt : i < s.calls.length := (List.getElem?_eq_some_iff.mp h).1
    simp only [Creation.step, h, lookupCall_of_mem hs hjob hid]
    refine ⟨trivial, fun hsame => ?_, fun hother => ?_⟩
    · refine ⟨createResponse (s.store.jobSnapshot job), ?_, rfl⟩
      rw [if_pos hsame, List.getElem?_set_self hlt]
    · refine ⟨"client_request_id is already associated with a different request", ?_⟩
      rw [if_neg hother, List.getElem?_set_self hlt]
  | create h =>
    rename_i protocols now jobId
    have hlt : i < s.calls.length := (List.getElem?_eq_some_iff.mp h).1
    simp only [Creation.step, h, createCall_of_mem hs hjob hid]
    refine ⟨trivial, fun hsame => ?_, fun hother => ?_⟩
    · refine ⟨createResponse (s.store.jobSnapshot job), ?_, rfl⟩
      rw [if_pos hsame, List.getElem?_set_self hlt]
    · refine ⟨"client_request_id was already used for a different request", ?_⟩
      rw [if_neg hother, List.getElem?_set_self hlt]

/-- A creation fails and changes nothing, or adds one row for each target, in their order, with the
next values of `enqueue_seq`. -/
theorem create_step_cases {s : Creation} {i : Nat} {request : CanonicalCreateRequest}
    {protocols : List (DeviceId × ProtocolMode × List String)}
    (h : s.calls[i]? = some (.creating request protocols)) (now : Millis) (jobId : JobId)
    {s' : Creation} (hs' : s' = s.step decimal sha256 settings indexed (.create i now jobId)) :
    s'.store = s.store ∨
      ((∃ response, s'.calls[i]? = some (.answered (.created response)) ∧ response.jobId = jobId) ∧
      ∃ rows, s'.store.devices.rows = s.store.devices.rows ++ rows ∧
        rows.map DeviceRow.deviceId = request.targetDevices ∧
        rows.map DeviceRow.enqueueSeq =
          List.range' s.store.nextEnqueueSeq request.targetDevices.length ∧
        s'.store.nextEnqueueSeq = s.store.nextEnqueueSeq + request.targetDevices.length) := by
  have hlt : i < s.calls.length := (List.getElem?_eq_some_iff.mp h).1
  subst hs'
  simp only [Creation.step, h, createCall]
  split
  · rename_i store isNew snapshot hok
    rcases Store.createJob_cases hok with ⟨hsame, -⟩ |
      ⟨hisNew, hnew, -, jobs, devices, rows, hjobs, hrows, hdevices, hstore, hsnapshot⟩
    · exact .inl hsame
    · dsimp only at hstore hsnapshot hisNew
      refine .inr ⟨⟨createResponse snapshot, ?_, ?_⟩, rows, ?_, hrows.devices, hrows.seqs, ?_⟩
      · rw [List.getElem?_set_self hlt, hisNew]
        rfl
      · rw [Store.snapshot] at hsnapshot
        split at hsnapshot
        · exact absurd hsnapshot (by simp)
        · rename_i job hjob
          rw [← Except.ok.inj hsnapshot]
          exact Store.jobId_of_job? hjob
      · rw [hstore]
        exact hdevices
      · rw [hstore]
  · exact .inl rfl

/-- The invariant of the store after any steps. -/
theorem oncePerRequest_exec (steps : List CreateStep) :
    (Run.exec
      (Creation.step decimal sha256 settings indexed) .initial steps).store.OncePerRequest := by
  have hall : Run.Along (Creation.step decimal sha256 settings indexed) (fun _ _ => True) .initial
      steps := Run.along_of_forall (fun _ _ => trivial) _ _
  exact hall.invariant (I := fun s => s.store.OncePerRequest)
    (fun s label h _ => oncePerRequest_step h label) .initial

/-- What a call's own steps keep, the run keeps. -/
theorem following_exec {P : JobRow → CanonicalCreateRequest → CreateCall → Prop} {job : JobRow}
    {request : CanonicalCreateRequest} {i : Nat} {s : Creation} (hs : s.store.OncePerRequest)
    (h : Following P job request i s)
    (hlasting : ∀ {s : Store}, s.OncePerRequest → (∃ job' ∈ s.jobs.rows, job'.jobId = job.jobId ∧
      job'.clientRequestId = request.clientRequestId ∧
        job'.requestFingerprint = job.requestFingerprint) → Lasting settings s P job request)
    (steps : List CreateStep) :
    Following P job request i
      (Run.exec (Creation.step decimal sha256 settings indexed) s steps) := by
  have hall : Run.Along (Creation.step decimal sha256 settings indexed) (fun _ _ => True) s steps :=
    Run.along_of_forall (fun _ _ => trivial) _ _
  exact (hall.invariant (I := fun s => s.store.OncePerRequest ∧ Following P job request i s)
    (fun s label h _ => ⟨oncePerRequest_step h.1 label,
      h.2.step (hlasting h.1 h.2.stored) label⟩) ⟨hs, h⟩).2

/-- After any steps: no request has two jobs; the values of `enqueue_seq` of the rows are exactly
those that were drawn, each once; a store call of a request that has a job changes nothing and
answers with that job, or with a conflict when the fingerprints differ; a creation that fails
changes nothing, and one that succeeds draws the next values in the sorted order of its targets; a
call that arrives when its request has a job is answered so by the end; the check of the targets
changes nothing; and a call that has missed its lookup before its request got a job is answered so
as well, unless that check refuses it. -/
theorem creation_idempotent (steps : List CreateStep) :
    let s := Run.exec (Creation.step decimal sha256 settings indexed) .initial steps
    (∀ job ∈ s.store.jobs.rows, ∀ job' ∈ s.store.jobs.rows,
      job.clientRequestId = job'.clientRequestId → job = job') ∧
    (s.store.devices.rows.map DeviceRow.enqueueSeq).Nodup ∧
    (∀ n, n ∈ s.store.devices.rows.map DeviceRow.enqueueSeq ↔
      1 ≤ n ∧ n < s.store.nextEnqueueSeq) ∧
    (∀ i request s', StoreCall decimal sha256 settings indexed s i request s' →
      ∀ job ∈ s.store.jobs.rows, job.clientRequestId = request.clientRequestId →
        s'.store = s.store ∧
        (job.requestFingerprint = request.fingerprint → ∃ response,
          s'.calls[i]? = some (.answered (.found response)) ∧ response.jobId = job.jobId) ∧
        (job.requestFingerprint ≠ request.fingerprint → ∃ message,
          s'.calls[i]? = some (.answered (.conflict message)))) ∧
    (∀ i request protocols now jobId, s.calls[i]? = some (.creating request protocols) →
      let s' := s.step decimal sha256 settings indexed (.create i now jobId)
      s'.store = s.store ∨
        ((∃ response, s'.calls[i]? = some (.answered (.created response)) ∧
          response.jobId = jobId) ∧
        request.targetDevices.Pairwise (· < ·) ∧
        ∃ rows, s'.store.devices.rows = s.store.devices.rows ++ rows ∧
          rows.map DeviceRow.deviceId = request.targetDevices ∧
          rows.map DeviceRow.enqueueSeq =
            List.range' s.store.nextEnqueueSeq request.targetDevices.length ∧
          s'.store.nextEnqueueSeq = s.store.nextEnqueueSeq + request.targetDevices.length)) ∧
    (∀ before body after request job, steps = before ++ .receive body :: after →
      canonicalizeCreateRequest decimal sha256 body = .ok request →
      let s₀ := Run.exec (Creation.step decimal sha256 settings indexed) .initial before
      job ∈ s₀.store.jobs.rows → job.clientRequestId = request.clientRequestId →
      ∃ call, s.calls[s₀.calls.length]? = some call ∧ Follows job request call) ∧
    (∀ i live, (s.step decimal sha256 settings indexed (.check i live)).store = s.store) ∧
    (∀ before after (i : Nat) request call job, steps = before ++ after →
      let s₀ := Run.exec (Creation.step decimal sha256 settings indexed) .initial before
      job ∈ s₀.store.jobs.rows → job.clientRequestId = request.clientRequestId →
      s₀.calls[i]? = some call → Overtaken settings job request call →
      ∃ call', s.calls[i]? = some call' ∧ Overtaken settings job request call') := by
  intro s
  have hs : s.store.OncePerRequest := oncePerRequest_exec steps
  refine ⟨?_, ?_, ?_, ?_, ?_, ?_, ?_, ?_⟩
  · intro job hjob job' hjob' heq
    have hkey := hs.once (Store.mem_jobs.mp hjob) (Store.mem_jobs.mp hjob') heq
    have hlook := Store.mem_jobs.mp hjob
    rw [hkey, Store.mem_jobs.mp hjob'] at hlook
    exact (Option.some.inj hlook).symm
  · refine List.Nodup.map_on ?_ (s.store.devices.nodup.of_map _)
    intro row hrow row' hrow' heq
    obtain ⟨hk, hd⟩ := hs.wellFormed.seqInj (Store.mem_devices.mp hrow)
      (Store.mem_devices.mp hrow') heq
    have hlook := Store.mem_devices.mp hrow
    rw [hk, hd, Store.mem_devices.mp hrow'] at hlook
    exact (Option.some.inj hlook).symm
  · intro n
    rw [List.mem_map]
    constructor
    · rintro ⟨row, hrow, rfl⟩
      exact ⟨hs.seqPos (Store.mem_devices.mp hrow), hs.wellFormed.seqLt (Store.mem_devices.mp hrow)⟩
    · rintro ⟨hpos, hlt⟩
      obtain ⟨k, d, row, hrow, hseq⟩ := hs.seqs n hpos hlt
      obtain ⟨rfl, rfl⟩ := Store.key_of_device? hrow
      exact ⟨row, Store.mem_devices.mpr hrow, hseq⟩
  · intro i request s' hcall job hjob hid
    exact storeCall_of_mem hs hcall hjob hid
  · intro i request protocols now jobId hcall s'
    rcases create_step_cases hcall now jobId rfl with hsame | ⟨hanswer, hrows⟩
    · exact .inl hsame
    · exact .inr ⟨hanswer, request.targets_sorted, hrows⟩
  · rintro before body after request job rfl hbody s₀ hjob hid
    have hobj : body.isObj := by
      cases body with
      | obj fields => rfl
      | _ => exact absurd hbody (by simp [canonicalizeCreateRequest, requireUuid, Value.get,
          Value.get?, bind, Except.bind])
    have hs₀ : s₀.store.OncePerRequest := oncePerRequest_exec before
    -- from its arrival on, the call is not looked up yet or is answered with the job
    have hstart : Following Follows job request s₀.calls.length
        (s₀.step decimal sha256 settings indexed (.receive body)) := by
      refine ⟨⟨job, hjob, rfl, hid, rfl⟩, .looking request, ?_, .inl rfl⟩
      simp [Creation.step, receiveCall, hobj, hbody]
    have hsplit : s = Run.exec (Creation.step decimal sha256 settings indexed)
        (s₀.step decimal sha256 settings indexed (.receive body)) after := by
      change Run.exec _ _ _ = _
      rw [Run.exec_append, Run.exec_cons]
    rw [hsplit]
    exact (following_exec (oncePerRequest_step hs₀ _) hstart lasting_follows after).follows
  · intro i live
    rw [Creation.step]
    split <;> rfl
  · rintro before after i request call job rfl s₀ hjob hid hcall hover
    have hs₀ : s₀.store.OncePerRequest := oncePerRequest_exec before
    have hstart : Following (Overtaken settings) job request i s₀ :=
      ⟨⟨job, hjob, rfl, hid, rfl⟩, call, hcall, hover⟩
    have hsplit : s = Run.exec (Creation.step decimal sha256 settings indexed) s₀ after :=
      Run.exec_append _ _ _ _
    rw [hsplit]
    exact (following_exec hs₀ hstart lasting_overtaken after).follows

end Runs

/-! ### Two equal requests -/

theorem exists_ok_of_any {α : Type} {result : Except Refused α} {P : α → Prop} [DecidablePred P]
    (h : result.toOption.any fun a => decide (P a)) : ∃ a, result = .ok a ∧ P a := by
  cases result with
  | ok a => exact ⟨a, rfl, of_decide_eq_true h⟩
  | error _ => exact Bool.noConfusion h

/-- The settings of the runs below. -/
def sampleSettings : CreateSettings := ⟨1000, 1000000, false, 60000⟩

/-- Two calls with the same body, both of which look up before the first creates its job. -/
def equalCalls : List CreateStep :=
  [.receive (sampleBody "/sdcard/apps" "apps"), .receive (sampleBody "/sdcard/apps" "apps"),
    .lookup 0, .lookup 1, .check 0 (fun _ => { capabilities := some ["push_job_id_v1"] }),
    .create 0 1000 "job-1"]

/-- The request has its job when the targets of the second call are checked, but the device is
offline by then: the call is refused and does not return the id of the job. -/
theorem equal_call_refused :
    let s := Run.exec (Creation.step (fun _ => none) (fun _ => "digest") sampleSettings true)
      .initial equalCalls
    (∃ request, canonicalizeCreateRequest (fun _ => none) (fun _ => "digest")
        (sampleBody "/sdcard/apps" "apps") = .ok request ∧
      ∃ job ∈ s.store.jobs.rows, job.clientRequestId = request.clientRequestId ∧
        job.requestFingerprint = request.fingerprint) ∧
    (s.step (fun _ => none) (fun _ => "digest") sampleSettings true
      (.check 1 fun _ => {})).calls[1]? =
        some (.answered (.refused (.invalid "target device is not online: quest-1"))) :=
  ⟨exists_ok_of_any (by decide +kernel), by decide +kernel⟩

end StylyMdm.PushJobs
