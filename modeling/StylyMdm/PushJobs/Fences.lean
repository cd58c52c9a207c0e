import StylyMdm.PushJobs.Exclusivity

/-!
# What lifts a fence

A fence keeps a device out of the queue while an execution may still be running on it. It should
go only when something is known about that execution: the device has sent its result, has said
that it has nothing of it, or runs another process now and says that nothing is active.

`push_device_fences` has one row per device, and the two operations that write a fence overwrite
whatever is there. So a fence can also be lost to a fence for another execution, and that is the
only other way: `FenceSafe` is the condition that a fence is written only where none for another
execution stands.

`Evidence` is stated with the calls of the runtime, which carry what they have consumed, and not
with the state: a fence that is gone leaves nothing behind that could be asked. The step lemma says
of one call that a fence is kept, or lost by evidence (`fence_lost_by_evidence`); along a run in
which the condition holds, every fence that was lifted was lifted by evidence for its own execution.
-/

namespace StylyMdm.PushJobs

namespace Store

/-- The calls that consume evidence about what a fence blocks on. -/
inductive Evidence (fence : FenceRow) : RuntimeCall → Prop
  | result {jobId : JobId} {settled : TerminalResult} (hblocker : fence.blocker = .job jobId) :
    Evidence fence (.result jobId fence.deviceId settled)
  | resultFenced {jobId : JobId} (hblocker : fence.blocker = .job jobId) :
    Evidence fence (.resultFenced jobId fence.deviceId)
  | reportedGone {jobId : JobId} {status : GoneStatus} {phase detail : Option String}
      (hblocker : fence.blocker = .job jobId) :
    Evidence fence (.reportedGone jobId fence.deviceId status phase detail)
  | reportedGoneFenced {jobId : JobId} {status : GoneStatus}
      (hblocker : fence.blocker = .job jobId) :
    Evidence fence (.reportedGoneFenced jobId fence.deviceId status)
  /-- The result of an execution the server does not know, under its canonical identity. -/
  | resultUnknown {jobId : JobId} {identity : OpaqueIdentity} {named : JobId × Option String}
      (hblocker : fence.blocker = .unknown identity)
      (hnamed : parseOpaqueJobIdentity identity = some named)
      (hsame : canonicalUuid4 jobId = some named.1) :
    Evidence fence (.resultUnknown jobId fence.deviceId)
  | reportedGoneUnknown {jobId : JobId} {status : GoneStatus} {identity : OpaqueIdentity}
      {named : JobId × Option String} (hblocker : fence.blocker = .unknown identity)
      (hnamed : parseOpaqueJobIdentity identity = some named)
      (hsame : canonicalUuid4 jobId = some named.1) :
    Evidence fence (.reportedGoneUnknown jobId fence.deviceId status)
  /-- A job-v1 process other than the fenced one registers with nothing active. -/
  | registeredIdle {processInstanceId : Option String} (hpid : truthy processInstanceId)
      (hother : fence.blockingProcessInstanceId ≠ processInstanceId) :
    Evidence fence (.registeredIdle fence.deviceId processInstanceId true)

/-- A call that writes a fence finds none for another execution: the reconciliation sweep when it
is about to expire a row, and the report of an execution that is not one of this server's. -/
def FenceSafe (s : Store) (call : Millis × RuntimeCall) : Prop :=
  match call.2 with
  | .reconciliationExpired jobId deviceId _ deadline observedNow =>
    ∀ row fence, s.device? jobId deviceId = some row → row.state = .reconciling →
      row.reconciliationDeadline = some deadline → deadline ≤ observedNow →
      s.fence? deviceId = some fence → fence.blocker = .job jobId
  | .unknownActive deviceId active _ _ _ =>
    ∀ fence, s.fence? deviceId = some fence →
      fence.blocker = .unknown (opaqueIdentityForActive active)
  | _ => True

section Step

variable {now : Millis} {s s' : Store} {call : RuntimeCall} {fence : FenceRow}

/-- The identity a report is compared with is the canonical form of its job id. -/
theorem canonicalUuid4_of_expected {jobId expected : JobId} {artifact : Option String}
    (h : canonicalOpaqueJobIdentity { jobId := some jobId, attempt := .one } =
      some (.job expected artifact)) : canonicalUuid4 jobId = some expected := by
  simp only [canonicalOpaqueJobIdentity, ne_eq, not_true_eq_false, if_false, Option.bind_some] at h
  rcases hcanonical : canonicalUuid4 jobId with _ | canonical
  · simp [hcanonical] at h
  · simp only [hcanonical, Option.some.injEq, OpaqueIdentity.job.injEq] at h
    rw [h.1]

/-- The operations that clear a fence are only issued with evidence in hand. -/
theorem FenceClear.evidence {op : Op} (h : FenceClear s fence op) (hop : call.op = op) :
    Evidence fence call := by
  cases h with
  | processReplaced hpid hother =>
    cases call with
    | registeredIdle deviceId pid hasJobV1 =>
      cases hop
      exact .registeredIdle hpid hother
    | _ => cases hop
  | matching hblocker =>
    cases call with
    | reportedGoneFenced jobId deviceId status =>
      cases hop
      exact .reportedGoneFenced hblocker
    | _ => cases hop
  | matchingUnknown hblocker hmode hexpected hparse hnamed =>
    have hsame := (canonicalUuid4_of_expected hexpected).trans (congrArg some hnamed.symm)
    cases call with
    | resultUnknown jobId deviceId =>
      cases hop
      exact .resultUnknown hblocker hparse hsame
    | reportedGoneUnknown jobId deviceId status =>
      cases hop
      exact .reportedGoneUnknown hblocker hparse hsame
    | _ => cases hop
  | lateResult hblocker hrow hstate =>
    cases call with
    | resultFenced jobId deviceId =>
      cases hop
      exact .resultFenced hblocker
    | _ => cases hop
  | report hblocker hrow hstate hstatus =>
    cases call with
    | reportedGone jobId deviceId status phase detail =>
      cases hop
      exact .reportedGone hblocker
    | reportedActive jobId deviceId phase detail =>
      cases hop
      exact absurd hstatus (by simp)
    | _ => cases hop

/-- **One step.** A safe call leaves a device fenced for the same execution, or has consumed
evidence about it. -/
theorem Effect.fence_kept (e : Effect now s call.op s') (hsafe : FenceSafe s (now, call))
    {d : DeviceId} (hfence : s.fence? d = some fence) :
    (∃ fence', s'.fence? d = some fence' ∧ fence'.blocker = fence.blocker) ∨
      Evidence fence call := by
  obtain rfl := deviceId_of_fence? hfence
  have hchange := e.fenceChange fence.deviceId
  generalize hop : call.op = op at hchange
  generalize hnew : s'.fence? fence.deviceId = new at hchange
  cases hchange with
  | same => exact .inl ⟨fence, hfence, rfl⟩
  | settled hf hblocker hrow hstate =>
    rw [hfence, Option.some.injEq] at hf
    subst hf
    cases call with
    | result jobId deviceId settled =>
      cases hop
      exact .inr (.result hblocker)
    | _ => cases hop
  | cleared hf hclear =>
    rw [hfence, Option.some.injEq] at hf
    subst hf
    exact .inr (hclear.evidence hop)
  | unconfirmed hrow hstate hrow' hstate' hblocker hdue =>
    cases call with
    | reconciliationExpired jobId deviceId pid deadline observedNow =>
      cases hop
      obtain ⟨hdeadline, hle⟩ := hdue deadline rfl
      have hsame := hsafe _ fence hrow hstate hdeadline hle hfence
      exact .inl ⟨_, rfl, hblocker.trans hsame.symm⟩
    | _ => cases hop
  | unknown hblocker hmode =>
    cases call with
    | unknownActive deviceId active protocolMode pid reason =>
      cases hop
      exact .inl ⟨_, rfl, hblocker.trans (hsafe fence hfence).symm⟩
    | _ => cases hop

end Step

/-! ### Runs of the runtime -/

/-- The call takes no fence from a device without evidence about what it fences. -/
def FencesKept (indexed : Bool) (s : Store) (call : Millis × RuntimeCall) : Prop :=
  ∀ d fence, s.fence? d = some fence →
    (∃ fence', (s.runtimeStep indexed call).fence? d = some fence' ∧
      fence'.blocker = fence.blocker) ∨ Evidence fence call.2

/-- Over a stretch of a run: a fence that is gone at its end was lifted by evidence in between. -/
theorem fence_lost_by_evidence {indexed : Bool} {s : Store} {calls : List (Millis × RuntimeCall)}
    (hkept : Run.Along (runtimeStep indexed) (FencesKept indexed) s calls) {d : DeviceId}
    {fence : FenceRow} (hfence : s.fence? d = some fence) :
    (∃ fence', (runtimeExec indexed s calls).fence? d = some fence' ∧
      fence'.blocker = fence.blocker) ∨
    ∃ before call after found, calls = before ++ call :: after ∧
      (runtimeExec indexed s before).fence? d = some found ∧ found.blocker = fence.blocker ∧
      Evidence found call.2 := by
  induction calls generalizing s fence with
  | nil => exact .inl ⟨fence, hfence, rfl⟩
  | cons call calls ih =>
    rcases hkept.1 d fence hfence with ⟨fence', hfence', hsame⟩ | hevidence
    · rcases ih hkept.2 hfence' with ⟨fence'', hfence'', hsame'⟩ |
        ⟨before, call', after, found, hcalls, hfound, hsame', hevidence⟩
      · exact .inl ⟨fence'', hfence'', hsame'.trans hsame⟩
      · exact .inr ⟨call :: before, call', after, found, by rw [hcalls]; rfl, hfound,
          hsame'.trans hsame, hevidence⟩
    · exact .inr ⟨[], call, calls, fence, rfl, hfence, rfl, hevidence⟩

/-- **A fence is only lifted by evidence about what it fences.** In every run of the runtime's
calls that writes a fence only where none for another execution stands: no step takes the fence
for an execution from a device, or replaces it by one for another, unless it consumes evidence
about that execution; so a fence that stands at one moment and not at a later one was lifted by
such a step in between. -/
theorem fence_lifted_by_evidence (indexed : Bool) (calls : List (Millis × RuntimeCall))
    (hsafe : Run.Along (runtimeStep indexed) FenceSafe initial calls) :
    Run.Along (runtimeStep indexed) (FencesKept indexed) initial calls ∧
    ∀ before between after d fence, calls = before ++ (between ++ after) →
      (runtimeExec indexed initial before).fence? d = some fence →
      (∃ fence', (runtimeExec indexed initial (before ++ between)).fence? d = some fence' ∧
        fence'.blocker = fence.blocker) ∨
      ∃ first call last found, between = first ++ call :: last ∧
        (runtimeExec indexed initial (before ++ first)).fence? d = some found ∧
        found.blocker = fence.blocker ∧ Evidence found call.2 := by
  have hkept : Run.Along (runtimeStep indexed) (FencesKept indexed) initial calls :=
    hsafe.mono fun s call hcall d fence hfence =>
      (runtimeStep_effect indexed s call).fence_kept hcall hfence
  refine ⟨hkept, fun before between after d fence hcalls hfence => ?_⟩
  rw [hcalls, Run.along_append, Run.along_append] at hkept
  simp only [runtimeExec, Run.exec_append]
  exact fence_lost_by_evidence hkept.2.1 hfence

/-- A device reports an execution that this server does not know. -/
private def unknownExecution (jobId : JobId) : RuntimeCall :=
  .unknownActive "quest-1" { jobId := some jobId, attempt := .one, phase := some "applying" } .jobV1
    (some "process-1") "REGISTER reported an active Push/Sync job unknown to this server"

/-- The job of the run below. -/
private def firstExecution : JobId := "11111111-1111-4111-8111-111111111111"

/-- A second job. -/
private def secondExecution : JobId := "22222222-2222-4222-8222-222222222222"

/-- The device is fenced, and the result of the execution lifts the fence. -/
theorem fence_lifted_by_evidence_result :
    Run.Along (runtimeStep true) FenceSafe initial
      [(10, unknownExecution firstExecution), (20, .resultUnknown firstExecution "quest-1")] ∧
    Run.Along (runtimeStep true) (FencesKept true) initial
      [(10, unknownExecution firstExecution), (20, .resultUnknown firstExecution "quest-1")] := by
  have hsafe : Run.Along (runtimeStep true) FenceSafe initial
      [(10, unknownExecution firstExecution), (20, .resultUnknown firstExecution "quest-1")] :=
    ⟨fun _ hfence => absurd hfence (by simp [fence?, initial]), trivial, trivial⟩
  exact ⟨hsafe, (fence_lifted_by_evidence true _ hsafe).1⟩

/-- A second registration with another unknown execution replaces the fence for the first one,
about which nothing has been learnt. -/
theorem fence_overwritten :
    ¬ ∀ calls, RuntimeRun true initial calls →
      Run.Along (runtimeStep true) (FencesKept true) initial calls := by
  intro h
  have hkept := h [(10, unknownExecution firstExecution), (20, unknownExecution secondExecution)]
    ⟨trivial, trivial, trivial⟩
  have hfirst : ((initial.runtimeStep true (10, unknownExecution firstExecution)).fence?
      "quest-1").map FenceRow.blocker = some (.unknown (.job firstExecution none)) := by
    decide +kernel
  have hsecond : (((initial.runtimeStep true (10, unknownExecution firstExecution)).runtimeStep true
      (20, unknownExecution secondExecution)).fence? "quest-1").map FenceRow.blocker =
      some (.unknown (.job secondExecution none)) := by
    decide +kernel
  obtain ⟨fence, hfence, hblocker⟩ := Option.map_eq_some_iff.mp hfirst
  obtain ⟨fence₂, hfence₂, hblocker₂⟩ := Option.map_eq_some_iff.mp hsecond
  rcases hkept.2.1 "quest-1" fence hfence with ⟨fence', hfence', hsame⟩ | hevidence
  · rw [hfence₂, Option.some.injEq] at hfence'
    subst hfence'
    rw [hblocker, hblocker₂] at hsame
    exact absurd hsame (by decide)
  · exact nomatch hevidence

end Store

end StylyMdm.PushJobs
