import StylyMdm.Library.Run

/-!
# The progress of a transfer job

`_run_install_job` and `_run_push_job` start one `dispatch_one` for each target and count where they
are. The two differ in their messages only. Tasks switch at an await, so a job is given by where
each of its coroutines is suspended; a label resumes one of them with what it has awaited. What
`forward_to_admins` is given is fixed at the call, and the messages are listed in that order.

The comment on the counters says that they add up after every transition. They do not: between
leaving the queue and the end of the send a device is not counted, and while a failed transfer is
announced its device is counted twice. Each coroutine adds what `Coroutine` says to the counters
(`Inv`), so a message adds up exactly when as many of the other coroutines are at the one await as
at the other (`Balanced`).

The counters are not read off the coroutines by the model: they are changed where the source changes
them, and `Inv` proves that they agree with the `tally` of where the coroutines are. `Moved` is what
one resumption can do, and `Follows` how the counters follow it. The slots of the server's
semaphore are a number that other jobs take and give back at any time.

`progress_adds_up_iff` is about every message that is ever broadcast: no counter is negative, in
the last message nothing is queued or under way, and the counters add up to the number of targets
exactly in the runs all of whose broadcasting resumptions are balanced.
-/

namespace StylyMdm.Transfers

/-- Where a `dispatch_one` is suspended. -/
inductive Coroutine
  /-- At `async with sem`. -/
  | waiting
  /-- At `send_str` of the command. -/
  | sending
  /-- In `fail_one`: the state of the device, and then the progress, is broadcast. -/
  | failing
  | failed
  /-- The transfer has begun: the same two broadcasts. -/
  | announcing
  | announced
  /-- At `wait_for`. -/
  | transferring
  /-- In the `except` branches: the state of the device is broadcast. -/
  | reporting
  /-- The progress is broadcast at the end. -/
  | closing (transferred : Bool)
  | finished (transferred : Bool)
deriving DecidableEq

/-- What a coroutine has awaited. -/
inductive Answer
  /-- A slot, and what `command_allowed` says then. -/
  | slot (allowed : Bool)
  /-- Whether the send went well. -/
  | sent (ok : Bool)
  | broadcast
  /-- The future has a result, the timeout has passed, or there is another exception. -/
  | released
  | timeout
  | raised

/-- `counts`. -/
structure Counts where
  queued : Int
  transferring : Int
  transferred : Int
  failed : Int

/-- An `INSTALL_PROGRESS` or `PUSH_PROGRESS`. -/
structure Progress where
  type : String
  total : Int
  queued : Int
  transferring : Int
  transferred : Int
  failed : Int
  done : Bool

/-- The two kinds of a transfer job. -/
inductive Kind
  | install
  | push

/-- The type of the progress messages. -/
def Kind.progressType : Kind → String
  | .install => "INSTALL_PROGRESS"
  | .push => "PUSH_PROGRESS"

/-- Where the job itself is: its first two broadcasts, `gather`, the last broadcast. -/
inductive Phase
  | announcing
  | starting
  | gathering
  | ending
deriving DecidableEq

/-- A job, the free slots of the server, and the progress that has been broadcast. -/
structure Job where
  kind : Kind
  total : Int
  counts : Counts
  coroutines : List Coroutine
  phase : Phase
  free : Nat
  messages : List Progress

namespace Job

/-- `_run_install_job` and `_run_push_job` at their first await. -/
def initial (kind : Kind) (targetIds : List String) (free : Nat) : Job where
  kind := kind
  total := targetIds.length
  counts := ⟨targetIds.length, 0, 0, 0⟩
  coroutines := targetIds.map fun _ => .waiting
  phase := .announcing
  free := free
  messages := []

/-- The progress message of a job. -/
def progress (job : Job) (done : Bool) : Progress where
  type := job.kind.progressType
  total := job.total
  queued := job.counts.queued
  transferring := job.counts.transferring
  transferred := job.counts.transferred
  failed := job.counts.failed
  done := done

/-- `broadcast_progress`. -/
def broadcastProgress (job : Job) (done : Bool) : Job :=
  { job with messages := job.messages ++ [job.progress done] }

/-- The coroutine runs to its next await. -/
def suspend (job : Job) (i : Nat) (coroutine : Coroutine) : Job :=
  { job with coroutines := job.coroutines.set i coroutine }

/-- `fail_one`, to its first await. -/
def failOne (job : Job) (i : Nat) : Job :=
  { job with counts := { job.counts with failed := job.counts.failed + 1 } }.suspend i .failing

/-- `dispatch_one` from one await to the next. -/
def resume (job : Job) (i : Nat) (coroutine : Coroutine) (answer : Answer) : Job :=
  match coroutine, answer with
  | .waiting, .slot allowed =>
    if job.phase ≠ .gathering ∨ job.free = 0 then job
    else
      let entered := { job with
        free := job.free - 1
        counts := { job.counts with queued := job.counts.queued - 1 } }
      if allowed then entered.suspend i .sending else entered.failOne i
  | .sending, .sent ok =>
    if ok then
      { job with
        counts := { job.counts with transferring := job.counts.transferring + 1 } }.suspend i
          .announcing
    else job.failOne i
  | .failing, .broadcast => (job.broadcastProgress false).suspend i .failed
  | .failed, .broadcast => { job with free := job.free + 1 }.suspend i (.finished false)
  | .announcing, .broadcast => (job.broadcastProgress false).suspend i .announced
  | .announced, .broadcast => job.suspend i .transferring
  | .transferring, .released =>
    -- the `finally` block runs before the next await
    ({ job with
      counts := { job.counts with
        transferred := job.counts.transferred + 1
        transferring := job.counts.transferring - 1 } }.broadcastProgress false).suspend i
          (.closing true)
  | .transferring, .timeout | .transferring, .raised =>
    { job with counts := { job.counts with failed := job.counts.failed + 1 } }.suspend i .reporting
  | .reporting, .broadcast =>
    ({ job with
      counts := { job.counts with
        transferring := job.counts.transferring - 1 } }.broadcastProgress false).suspend i
          (.closing false)
  | .closing transferred, .broadcast =>
    { job with free := job.free + 1 }.suspend i (.finished transferred)
  | _, _ => job

end Job

/-- What can happen next: a coroutine or the job itself goes on, or another job takes or frees a
slot. -/
inductive Label
  | resume (i : Nat) (answer : Answer)
  | proceed
  | take
  | free

/-- Has the coroutine of the target returned?. -/
def Coroutine.isFinished : Coroutine → Bool
  | .finished _ => true
  | _ => false

namespace Job

/-- One step of a job. -/
def step (job : Job) : Label → Job
  | .resume i answer =>
    match job.coroutines[i]? with
    | none => job
    | some coroutine => job.resume i coroutine answer
  | .proceed =>
    match job.phase with
    | .announcing => { job.broadcastProgress false with phase := .starting }
    | .starting => { job with phase := .gathering }
    | .gathering =>
      if job.coroutines.all Coroutine.isFinished then
        { job.broadcastProgress true with phase := .ending }
      else job
    | .ending => job
  | .take => { job with free := job.free - 1 }
  | .free => { job with free := job.free + 1 }

end Job

/-! ### What the counters count -/

/-- What a coroutine adds to each of the counters. -/
@[simp] def Coroutine.queued : Coroutine → Nat
  | .waiting => 1
  | _ => 0

/-- One while the target counts as transferring. -/
@[simp] def Coroutine.inTransfer : Coroutine → Nat
  | .announcing | .announced | .transferring | .reporting => 1
  | _ => 0

/-- One when the target has the file. -/
@[simp] def Coroutine.transferred : Coroutine → Nat
  | .closing true | .finished true => 1
  | _ => 0

/-- One when the target has failed. -/
@[simp] def Coroutine.failures : Coroutine → Nat
  | .failing | .failed | .reporting | .closing false | .finished false => 1
  | _ => 0

/-- Together they are one, but for two awaits. -/
theorem Coroutine.sum_eq (c : Coroutine) :
    c.queued + c.inTransfer + c.transferred + c.failures + (if c = .sending then 1 else 0) =
      1 + if c = .reporting then 1 else 0 := by
  rcases c with _ | _ | _ | _ | _ | _ | _ | _ | (_ | _) | (_ | _) <;> rfl

/-- The sum for all coroutines. -/
def tally (f : Coroutine → Nat) (l : List Coroutine) : Nat := (l.map f).sum

section Tally

variable {f : Coroutine → Nat} {l : List Coroutine} {i : Nat} {c c' : Coroutine}

theorem tally_eq (h : l[i]? = some c) : tally f l = f c + tally f (l.eraseIdx i) := by
  obtain ⟨hlt, rfl⟩ := List.getElem?_eq_some_iff.mp h
  have hperm := (List.getElem_cons_eraseIdx_perm hlt).map f
  rw [tally, ← hperm.sum_eq, List.map_cons, List.sum_cons]
  rfl

theorem tally_set (h : l[i]? = some c) (c' : Coroutine) :
    tally f (l.set i c') = f c' + tally f (l.eraseIdx i) := by
  have hlt := (List.getElem?_eq_some_iff.mp h).1
  have hnew : (l.set i c')[i]? = some c' := by
    rw [List.getElem?_set_self hlt]
  rw [tally_eq hnew, List.eraseIdx_set_eq]

/-- All coroutines together. -/
theorem tally_sum (l : List Coroutine) :
    tally Coroutine.queued l + tally Coroutine.inTransfer l + tally Coroutine.transferred l +
        tally Coroutine.failures l + l.count .sending = l.length + l.count .reporting := by
  induction l with
  | nil => rfl
  | cons c l ih =>
    have hone := c.sum_eq
    simp only [tally, List.map_cons, List.sum_cons, List.count_cons, List.length_cons,
      beq_iff_eq] at ih hone ⊢
    omega

theorem count_set (h : l[i]? = some c) (c' a : Coroutine) :
    (l.set i c').count a = (l.eraseIdx i).count a + if c' = a then 1 else 0 := by
  have hlt := (List.getElem?_eq_some_iff.mp h).1
  have hlt' : i < (l.set i c').length := by rwa [List.length_set]
  have hperm := List.getElem_cons_eraseIdx_perm hlt'
  rw [← hperm.count_eq, List.getElem_set_self, List.eraseIdx_set_eq, List.count_cons]
  simp only [beq_iff_eq]

end Tally

/-! ### The invariant -/

/-- The counters count the coroutines, and before `gather` all of these are waiting. -/
structure Inv (job : Job) : Prop where
  total : job.total = job.coroutines.length
  queued : job.counts.queued = tally Coroutine.queued job.coroutines
  transferring : job.counts.transferring = tally Coroutine.inTransfer job.coroutines
  transferred : job.counts.transferred = tally Coroutine.transferred job.coroutines
  failed : job.counts.failed = tally Coroutine.failures job.coroutines
  notStarted : job.phase = .announcing ∨ job.phase = .starting →
    ∀ c ∈ job.coroutines, c = .waiting

theorem tally_replicate (f : Coroutine → Nat) (n : Nat) (c : Coroutine) :
    tally f (List.replicate n c) = n * f c := by
  rw [tally, List.map_replicate, List.sum_replicate, smul_eq_mul]

theorem Inv.initial (kind : Kind) (targetIds : List String) (free : Nat) :
    Inv (.initial kind targetIds free) := by
  constructor <;> simp [Job.initial, tally_replicate]

/-- The counters follow a coroutine from one await to another. -/
structure Follows (c c' : Coroutine) (counts counts' : Counts) : Prop where
  queued : counts'.queued = counts.queued + c'.queued - c.queued
  transferring : counts'.transferring = counts.transferring + c'.inTransfer - c.inTransfer
  transferred : counts'.transferred = counts.transferred + c'.transferred - c.transferred
  failed : counts'.failed = counts.failed + c'.failures - c.failures

/-- The resumptions in which the progress is broadcast. -/
def broadcasts : Coroutine → Answer → Bool
  | .failing, .broadcast | .announcing, .broadcast | .transferring, .released
  | .reporting, .broadcast => true
  | _, _ => false

/-- What a resumption does: nothing, or the coroutine moves on, the counters follow it, and the
progress is broadcast or not. -/
inductive Moved (job : Job) (i : Nat) (c : Coroutine) : Bool → Job → Prop
  | stays : Moved job i c false job
  | quiet {c' : Coroutine} {job' : Job} (hstart : c = .waiting → job.phase = .gathering)
      (hcoroutines : job'.coroutines = job.coroutines.set i c')
      (hcounts : Follows c c' job.counts job'.counts) (htotal : job'.total = job.total)
      (hphase : job'.phase = job.phase) (hmessages : job'.messages = job.messages) :
    Moved job i c false job'
  | broadcast {c' : Coroutine} {job' : Job} (hstart : c ≠ .waiting)
      (hcoroutines : job'.coroutines = job.coroutines.set i c')
      (hcounts : Follows c c' job.counts job'.counts) (htotal : job'.total = job.total)
      (hphase : job'.phase = job.phase)
      (hmessages : job'.messages = job.messages ++ [job'.progress false])
      (hplain : c' ≠ .sending ∧ c' ≠ .reporting) :
    Moved job i c true job'

theorem moved_resume (job : Job) (i : Nat) (c : Coroutine) (answer : Answer) :
    Moved job i c (broadcasts c answer) (job.resume i c answer) := by
  unfold Job.resume
  split
  · rename_i allowed
    split
    · exact .stays
    · rename_i hopen
      rw [not_or, not_not] at hopen
      cases allowed with
      | false =>
        exact .quiet (fun _ => hopen.1) rfl (by constructor <;> simp [Job.failOne, Job.suspend])
          rfl rfl rfl
      | true =>
        exact .quiet (fun _ => hopen.1) rfl (by constructor <;> simp [Job.suspend]) rfl rfl rfl
  · rename_i ok
    cases ok with
    | false =>
      exact .quiet (by simp) rfl (by constructor <;> simp [Job.failOne, Job.suspend]) rfl rfl rfl
    | true => exact .quiet (by simp) rfl (by constructor <;> simp [Job.suspend]) rfl rfl rfl
  · exact .broadcast (by simp) rfl (by constructor <;> simp [Job.suspend, Job.broadcastProgress])
      rfl rfl rfl (by simp)
  · exact .quiet (by simp) rfl (by constructor <;> simp [Job.suspend]) rfl rfl rfl
  · exact .broadcast (by simp) rfl (by constructor <;> simp [Job.suspend, Job.broadcastProgress])
      rfl rfl rfl (by simp)
  · exact .quiet (by simp) rfl (by constructor <;> simp [Job.suspend]) rfl rfl rfl
  · exact .broadcast (by simp) rfl (by constructor <;> simp [Job.suspend, Job.broadcastProgress])
      rfl rfl rfl (by simp)
  · exact .quiet (by simp) rfl (by constructor <;> simp [Job.suspend]) rfl rfl rfl
  · exact .quiet (by simp) rfl (by constructor <;> simp [Job.suspend]) rfl rfl rfl
  · exact .broadcast (by simp) rfl (by constructor <;> simp [Job.suspend, Job.broadcastProgress])
      rfl rfl rfl (by simp)
  · rename_i transferred
    cases transferred <;>
      exact .quiet (by simp) rfl (by constructor <;> simp [Job.suspend]) rfl rfl rfl
  · -- nothing that this await could return
    have hquiet : broadcasts c answer = false := by
      unfold broadcasts
      split <;> simp_all
    rw [hquiet]
    exact .stays

section Step

variable {job job' : Job} {i : Nat} {c : Coroutine} {broadcast : Bool}

/-- The counters still count the coroutines after one of them has moved. -/
theorem Inv.moved (h : Inv job) (hc : job.coroutines[i]? = some c)
    (hmoved : Moved job i c broadcast job') : Inv job' := by
  have hmove : ∀ c', (c = .waiting → job.phase = .gathering) →
      job'.coroutines = job.coroutines.set i c' → Follows c c' job.counts job'.counts →
      job'.total = job.total → job'.phase = job.phase → Inv job' := by
    intro c' hstart hcoroutines hcounts htotal hphase
    have htally : ∀ f : Coroutine → Nat, (tally f job'.coroutines : Int) =
        tally f job.coroutines + f c' - f c := by
      intro f
      rw [hcoroutines, tally_set hc, tally_eq hc]
      push_cast
      ring
    refine ⟨?_, ?_, ?_, ?_, ?_, fun hearly => ?_⟩
    · rw [htotal, h.total, hcoroutines, List.length_set]
    · rw [hcounts.queued, h.queued, htally]
    · rw [hcounts.transferring, h.transferring, htally]
    · rw [hcounts.transferred, h.transferred, htally]
    · rw [hcounts.failed, h.failed, htally]
    · -- before `gather` no coroutine moves
      rw [hphase] at hearly
      have hwaiting := h.notStarted hearly c (List.mem_of_getElem? hc)
      rw [hstart hwaiting] at hearly
      simp at hearly
  cases hmoved with
  | stays => exact h
  | quiet hstart hcoroutines hcounts htotal hphase hmessages =>
    exact hmove _ hstart hcoroutines hcounts htotal hphase
  | broadcast hstart hcoroutines hcounts htotal hphase hmessages hplain =>
    exact hmove _ (fun hwaiting => absurd hwaiting hstart) hcoroutines hcounts htotal hphase

theorem Inv.step (h : Inv job) (label : Label) : Inv (job.step label) := by
  cases label with
  | resume i answer =>
    rw [Job.step]
    split
    · exact h
    · rename_i c hc
      exact h.moved hc (moved_resume job i c answer)
  | proceed =>
    obtain ⟨htotal, hqueued, htransferring, htransferred, hfailed, hnot⟩ := h
    rw [Job.step]
    split
    · rename_i hphase
      exact ⟨htotal, hqueued, htransferring, htransferred, hfailed, fun _ => hnot (.inl hphase)⟩
    · exact ⟨htotal, hqueued, htransferring, htransferred, hfailed, by simp⟩
    · split
      · exact ⟨htotal, hqueued, htransferring, htransferred, hfailed,
          by simp [Job.broadcastProgress]⟩
      · exact ⟨htotal, hqueued, htransferring, htransferred, hfailed, hnot⟩
    · exact ⟨htotal, hqueued, htransferring, htransferred, hfailed, hnot⟩
  | take => exact ⟨h.total, h.queued, h.transferring, h.transferred, h.failed, h.notStarted⟩
  | free => exact ⟨h.total, h.queued, h.transferring, h.transferred, h.failed, h.notStarted⟩

/-! ### What is broadcast -/

/-- The counters of a message add up to its total. -/
def Progress.AddsUp (m : Progress) : Prop :=
  m.total = m.queued + m.transferring + m.transferred + m.failed

instance (m : Progress) : Decidable m.AddsUp := inferInstanceAs (Decidable (_ = _))

/-- No counter is negative, and in the last message nothing is under way. -/
structure Progress.Sound (m : Progress) : Prop where
  total : 0 ≤ m.total
  queued : 0 ≤ m.queued
  transferring : 0 ≤ m.transferring
  transferred : 0 ≤ m.transferred
  failed : 0 ≤ m.failed
  done : m.done = true → m.queued = 0 ∧ m.transferring = 0

/-- When the resumption broadcasts the progress, as many of the other coroutines are at the send of
the command as announce a failed transfer. -/
def Balanced (job : Job) : Label → Prop
  | .resume i answer => ∀ c, job.coroutines[i]? = some c → broadcasts c answer = true →
      (job.coroutines.eraseIdx i).count .sending = (job.coroutines.eraseIdx i).count .reporting
  | _ => True

theorem Inv.progress_addsUp_iff (h : Inv job) (done : Bool) : (job.progress done).AddsUp ↔
    job.coroutines.count .sending = job.coroutines.count .reporting := by
  have hsum := tally_sum job.coroutines
  simp only [Progress.AddsUp, Job.progress, h.total, h.queued, h.transferring, h.transferred,
    h.failed]
  omega

theorem Inv.progress_sound (h : Inv job) {done : Bool}
    (hdone : done = true → ∀ c ∈ job.coroutines, c.isFinished) : (job.progress done).Sound := by
  have hzero : ∀ f : Coroutine → Nat, (∀ transferred, f (.finished transferred) = 0) → done = true →
      (tally f job.coroutines : Int) = 0 := by
    intro f hf hdone'
    rw [Int.natCast_eq_zero, tally, List.sum_eq_zero_iff]
    intro n hn
    obtain ⟨c, hc, rfl⟩ := List.mem_map.mp hn
    have hover := hdone hdone' c hc
    cases c with
    | finished transferred => exact hf transferred
    | _ => exact Bool.noConfusion hover
  constructor <;> simp only [Job.progress]
  · rw [h.total]
    exact Int.natCast_nonneg _
  · rw [h.queued]
    exact Int.natCast_nonneg _
  · rw [h.transferring]
    exact Int.natCast_nonneg _
  · rw [h.transferred]
    exact Int.natCast_nonneg _
  · rw [h.failed]
    exact Int.natCast_nonneg _
  · intro hdone'
    rw [h.queued, h.transferring]
    exact ⟨hzero _ (fun _ => rfl) hdone', hzero _ (fun _ => rfl) hdone'⟩

/-- What a step broadcasts. -/
structure Broadcasts (job : Job) (label : Label) (new : List Progress) : Prop where
  messages : (job.step label).messages = job.messages ++ new
  sound : ∀ m ∈ new, m.Sound
  addsUp : (∀ m ∈ new, m.AddsUp) ↔ Balanced job label

theorem Inv.broadcasts_step (h : Inv job) (label : Label) :
    ∃ new, Broadcasts job label new := by
  have hinv := h.step label
  have hnothing : (job.step label).messages = job.messages → Balanced job label →
      ∃ new, Broadcasts job label new := fun hmessages hbalanced =>
    ⟨[], by rw [List.append_nil, hmessages], by simp, by simpa using hbalanced⟩
  cases label with
  | resume i answer =>
    rcases hc : job.coroutines[i]? with _ | c
    · exact hnothing (by rw [Job.step, hc]) fun c hc' => absurd (hc.symm.trans hc') (by simp)
    · have hstep : job.step (.resume i answer) = job.resume i c answer := by rw [Job.step, hc]
      have hmoved := moved_resume job i c answer
      rw [hstep] at hinv hnothing
      have hquiet : broadcasts c answer = false → Balanced job (.resume i answer) := by
        intro hfalse c' hc' htrue
        rw [← Option.some.inj (hc.symm.trans hc'), hfalse] at htrue
        exact Bool.noConfusion htrue
      generalize hbroadcasts : broadcasts c answer = broadcast at hmoved
      generalize job.resume i c answer = job' at hinv hmoved hnothing hstep
      cases hmoved with
      | stays => exact hnothing rfl (hquiet hbroadcasts)
      | quiet hstart hcoroutines hcounts htotal hphase hmessages =>
        exact hnothing hmessages (hquiet hbroadcasts)
      | broadcast hstart hcoroutines hcounts htotal hphase hmessages hplain =>
        rename_i c'
        refine ⟨[job'.progress false], by rw [hstep, hmessages], ?_, ?_⟩
        · simpa using @Inv.progress_sound _ hinv false (by simp)
        · rw [List.forall_mem_singleton, hinv.progress_addsUp_iff, hcoroutines, count_set hc,
            count_set hc, if_neg hplain.1, if_neg hplain.2, Nat.add_zero, Nat.add_zero]
          constructor
          · exact fun heq _ _ _ => heq
          · exact fun hbalanced => hbalanced c hc hbroadcasts
  | proceed =>
    rcases hphase : job.phase
    · -- the first message, when all are waiting
      have hwaiting := h.notStarted (.inl hphase)
      refine ⟨[job.progress false], by rw [Job.step, hphase]; rfl, ?_, ?_⟩
      · simpa using @Inv.progress_sound _ h false (by simp)
      · rw [List.forall_mem_singleton, h.progress_addsUp_iff]
        have hzero : ∀ a : Coroutine, a ≠ .waiting → job.coroutines.count a = 0 := by
          intro a ha
          exact List.count_eq_zero.mpr fun hmem => ha (hwaiting a hmem)
        simp [Balanced, hzero]
    · exact hnothing (by rw [Job.step, hphase]) trivial
    · by_cases hover : job.coroutines.all Coroutine.isFinished
      · -- the last message, when all are finished
        refine ⟨[job.progress true], ?_, ?_, ?_⟩
        · rw [Job.step, hphase]
          simp [hover, Job.broadcastProgress]
        · simpa using @Inv.progress_sound _ h true fun _ => List.all_eq_true.mp hover
        · rw [List.forall_mem_singleton, h.progress_addsUp_iff]
          have hzero : ∀ a : Coroutine, a.isFinished = false → job.coroutines.count a = 0 := by
            intro a ha
            refine List.count_eq_zero.mpr fun hmem => ?_
            exact absurd (List.all_eq_true.mp hover a hmem) (by simp [ha])
          rw [hzero .sending rfl, hzero .reporting rfl]
          simp [Balanced]
      · refine hnothing ?_ trivial
        rw [Job.step, hphase]
        simp [hover]
    · exact hnothing (by rw [Job.step, hphase]) trivial
  | take => exact hnothing rfl trivial
  | free => exact hnothing rfl trivial

end Step

/-- The messages of a run, from any state in which the counters are right. -/
theorem Inv.messages_exec {job : Job} (h : Inv job) (labels : List Label) :
    ∃ new, (Run.exec Job.step job labels).messages = job.messages ++ new ∧
      (∀ m ∈ new, m.Sound) ∧ ((∀ m ∈ new, m.AddsUp) ↔ Run.Along Job.step Balanced job labels) := by
  induction labels generalizing job with
  | nil => exact ⟨[], by simp, by simp, by simp⟩
  | cons label labels ih =>
    obtain ⟨new, hnew, hsound, hadds⟩ := h.broadcasts_step label
    obtain ⟨rest, hrest, hsound', hadds'⟩ := ih (h.step label)
    refine ⟨new ++ rest, ?_, ?_, ?_⟩
    · rw [Run.exec_cons, hrest, hnew, List.append_assoc]
    · exact List.forall_mem_append.mpr ⟨hsound, hsound'⟩
    · rw [List.forall_mem_append, hadds, hadds', Run.along_cons]

/-- **The progress of a job.** Whatever happens, no counter of a message is negative and the last
message has nothing queued or under way. The messages of a run all add up to their totals if and
only if every step that broadcasts one is balanced. -/
theorem progress_adds_up_iff (kind : Kind) (targetIds : List String) (free : Nat)
    (labels : List Label) :
    let job := Run.exec Job.step (.initial kind targetIds free) labels
    (∀ m ∈ job.messages, m.Sound) ∧
      ((∀ m ∈ job.messages, m.AddsUp) ↔
        Run.Along Job.step Balanced (.initial kind targetIds free) labels) := by
  intro job
  obtain ⟨new, hnew, hsound, hadds⟩ := (Inv.initial kind targetIds free).messages_exec labels
  have hmessages : job.messages = new := hnew
  rw [hmessages]
  exact ⟨hsound, hadds⟩

/-- The second of two targets is offline, and its failure is broadcast while the command goes to the
first: the message has one device of two. -/
theorem progress_misses_sending :
    let job := Run.exec Job.step (.initial .install ["quest-1", "quest-2"] 2)
      [.proceed, .proceed, .resume 0 (.slot true), .resume 1 (.slot false), .resume 1 .broadcast]
    ∃ m ∈ job.messages, ¬ m.AddsUp := by
  decide

end StylyMdm.Transfers
