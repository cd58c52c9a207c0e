import StylyMdm.PushJobs.Exclusivity

/-!
# The assignment the console shows for a device

`list_snapshots` of the manager, and `selectedAssignmentFor` of `push-jobs-v1.js`, which picks one
of the assignments of a device for its row in the console: an active one, else the first in the
queue, else the newest outcome.

The rows of a job that ends before it is dispatched stay `queued`. The server's queue looks at the
state of the job and skips them; the console looks at the state of the row only. `Matters` says
which assignment is meant, and `selected_matters_iff` when that is the one picked.

The snapshots are those that `list_snapshots` builds from a store in a reachable state, for any
bounds on the number of jobs and any order that `ORDER BY` leaves open. From what is proved about
such stores it follows that a device has at most one active row and that no two rows have the same
place in the queue, so the choice is one assignment and not several (`Matters.unique`).

The page sorts its candidates and takes the first. `head?_insertionSort` says what that is without
sorting, which reduces the choice to its three cases (`selectedAssignmentFor_cases`). The run at the
end abandons an upload and creates a second job for the same device: the console then shows the dead
job in front of the one that is next.
-/

namespace StylyMdm.PushJobs

namespace Store

/-! ### The server -/

/-- `add` of `list_snapshots`: the ids that are not there yet. -/
def addIds (ids more : List JobId) : List JobId :=
  more.foldl (fun ids jobId => if jobId ∈ ids then ids else ids ++ [jobId]) ids

/-- `list_snapshots`. `newestFirst` is `ORDER BY updated_at DESC`, which leaves the order of rows
with equal times open. -/
def listSnapshots (newestFirst : List JobRow → List JobRow) (s : Store) (recentLimit : Nat)
    (terminalCutoffMs : Millis) : Except StoreError (List JobSnapshot) := do
  let live := newestFirst (s.jobs.rows.filter fun job => isNonTerminalValue job.state)
  let recent := newestFirst (s.jobs.rows.filter fun job =>
    !isNonTerminalValue job.state && terminalCutoffMs ≤ job.updatedAt)
  let ids := addIds [] (live.map JobRow.jobId)
  let ids := addIds ids ((recent.take recentLimit).map JobRow.jobId)
  let ids := addIds ids (s.fences.rows.filterMap FenceRow.blockingJobId)
  -- an opaque fence is shown by the latest job of its device
  let ids := addIds ids ((s.fences.rows.filter fun fence =>
    fence.blockingJobId.isNone).filterMap fun fence => s.latestJob fence.deviceId)
  let snapshots ← s.snapshots ids
  return snapshots.insertionSort fun left right => right.updatedAt ≤ left.updatedAt

end Store

end StylyMdm.PushJobs

namespace StylyMdm.Console

open PushJobs Store

/-! ### The console -/

/-- An assignment of a device, with its job. -/
structure Candidate where
  job : JobSnapshot
  assignment : DeviceSnapshot
deriving DecidableEq, Repr

/-- The assignments of a device in `pushJobs`. -/
def candidates (pushJobs : List JobSnapshot) (deviceId : DeviceId) : List Candidate :=
  pushJobs.filterMap fun job =>
    (job.devices.find? fun device => device.deviceId = deviceId).map fun assignment =>
      ⟨job, assignment⟩

/-- `activeStates`. -/
def activeStates : List DeviceState :=
  [.waitingTransfer, .dispatching, .downloading, .validating, .applying, .reconciling]

/-- `terminalStates`. -/
def terminalStates : List DeviceState := [.succeeded, .failed, .interrupted, .unconfirmed]

/-- The order of the active and the queued assignments. -/
def firstEnqueued (left right : Candidate) : Prop :=
  left.assignment.enqueueSeq ≤ right.assignment.enqueueSeq

/-- The order of the terminal assignments. -/
def lastEnqueued (left right : Candidate) : Prop :=
  right.assignment.enqueueSeq < left.assignment.enqueueSeq ∨
    right.assignment.enqueueSeq = left.assignment.enqueueSeq ∧
      right.job.updatedAt ≤ left.job.updatedAt

instance : DecidableRel firstEnqueued := fun left right =>
  inferInstanceAs (Decidable (left.assignment.enqueueSeq ≤ right.assignment.enqueueSeq))

instance : DecidableRel lastEnqueued := fun left right =>
  inferInstanceAs (Decidable (right.assignment.enqueueSeq < left.assignment.enqueueSeq ∨
    right.assignment.enqueueSeq = left.assignment.enqueueSeq ∧
      right.job.updatedAt ≤ left.job.updatedAt))

/-- `selectedAssignmentFor`. -/
def selectedAssignmentFor (pushJobs : List JobSnapshot) (deviceId : DeviceId) :
    Option Candidate :=
  let candidates := candidates pushJobs deviceId
  let active := (candidates.filter fun c => c.assignment.state ∈ activeStates).insertionSort
    firstEnqueued
  let queued := (candidates.filter fun c => c.assignment.state = .queued).insertionSort
    firstEnqueued
  let terminal := (candidates.filter fun c => c.assignment.state ∈ terminalStates).insertionSort
    lastEnqueued
  (active.head?.or queued.head?).or terminal.head?

/-! ### What is meant -/

/-- The assignment of the device that matters: the active one; without one, the first in the queue
of those whose job is not over; and without one of these, the newest. -/
inductive Matters (pushJobs : List JobSnapshot) (d : DeviceId) (c : Candidate) : Prop
  | active (hmem : c ∈ candidates pushJobs d) (hactive : c.assignment.state.isActive)
  | queued (hmem : c ∈ candidates pushJobs d)
      (hidle : ∀ c' ∈ candidates pushJobs d, ¬ c'.assignment.state.isActive)
      (hqueued : c.assignment.state = .queued) (hlive : ¬ c.job.state.isTerminal)
      (hfirst : ∀ c' ∈ candidates pushJobs d, c'.assignment.state = .queued →
        ¬ c'.job.state.isTerminal → c.assignment.enqueueSeq ≤ c'.assignment.enqueueSeq)
  | newest (hmem : c ∈ candidates pushJobs d)
      (hidle : ∀ c' ∈ candidates pushJobs d, ¬ c'.assignment.state.isActive)
      (hdead : ∀ c' ∈ candidates pushJobs d, c'.assignment.state = .queued →
        c'.job.state.isTerminal)
      (hlast : ∀ c' ∈ candidates pushJobs d,
        c'.assignment.enqueueSeq ≤ c.assignment.enqueueSeq)

/-- The assignment is the first of the queued ones, those of dead jobs included. -/
def FirstQueued (pushJobs : List JobSnapshot) (d : DeviceId) (c : Candidate) : Prop :=
  c ∈ candidates pushJobs d ∧ c.assignment.state = .queued ∧
    ∀ c' ∈ candidates pushJobs d, c'.assignment.state = .queued →
      c.assignment.enqueueSeq ≤ c'.assignment.enqueueSeq

/-- Something is active; or the first queued assignment, if there is one, is one of a job that is
not over; or all queued assignments are those of dead jobs and the first of them is the newest
assignment of the device. -/
def QueueIsLive (pushJobs : List JobSnapshot) (d : DeviceId) : Prop :=
  (∃ c ∈ candidates pushJobs d, c.assignment.state.isActive) ∨
  ∀ c, FirstQueued pushJobs d c → ¬ c.job.state.isTerminal ∨
    (∀ c' ∈ candidates pushJobs d, c'.assignment.state = .queued → c'.job.state.isTerminal) ∧
    ∀ c' ∈ candidates pushJobs d, c'.assignment.enqueueSeq ≤ c.assignment.enqueueSeq

/-! ### The first of a sorted list -/

section Sorted

variable {α : Type} {r : α → α → Prop} [DecidableRel r]

/-- The head of a sorted list is one of the list, and comes before all of them. -/
theorem head?_insertionSort [Std.Total r] [IsTrans α r] {l : List α} {a : α}
    (h : (l.insertionSort r).head? = some a) : a ∈ l ∧ ∀ b ∈ l, r a b := by
  obtain ⟨rest, hrest⟩ := List.head?_eq_some_iff.mp h
  have hsorted := List.pairwise_insertionSort r l
  rw [hrest, List.pairwise_cons] at hsorted
  have hmem : ∀ b, b ∈ l ↔ b = a ∨ b ∈ rest := by
    intro b
    rw [← List.mem_insertionSort r, hrest, List.mem_cons]
  refine ⟨(hmem a).mpr (.inl rfl), fun b hb => ?_⟩
  rcases (hmem b).mp hb with rfl | hb
  · exact (or_self_iff.mp (Std.Total.total (r := r) b b))
  · exact hsorted.1 b hb

theorem head?_insertionSort_eq_none {l : List α} :
    (l.insertionSort r).head? = none ↔ l = [] := by
  rw [List.head?_eq_none_iff, ← List.length_eq_zero_iff, List.length_insertionSort,
    List.length_eq_zero_iff]

end Sorted

instance : Std.Total firstEnqueued := ⟨fun _ _ => Nat.le_total _ _⟩

instance : IsTrans Candidate firstEnqueued := ⟨fun _ _ _ => Nat.le_trans⟩

instance : Std.Total lastEnqueued := ⟨fun left right => by
  rcases Nat.lt_trichotomy left.assignment.enqueueSeq right.assignment.enqueueSeq with h | h | h
  · exact .inr (.inl h)
  · rcases Nat.le_total right.job.updatedAt left.job.updatedAt with h' | h'
    · exact .inl (.inr ⟨h.symm, h'⟩)
    · exact .inr (.inr ⟨h, h'⟩)
  · exact .inl (.inl h)⟩

instance : IsTrans Candidate lastEnqueued := ⟨fun left middle right => by
  unfold lastEnqueued
  rintro (h | ⟨h, h'⟩) (h₁ | ⟨h₁, h₁'⟩)
  · exact .inl (h₁.trans h)
  · exact .inl (h₁ ▸ h)
  · exact .inl (h ▸ h₁)
  · exact .inr ⟨h₁.trans h, h₁'.trans h'⟩⟩

/-! ### What the snapshots come from -/

section Listed

variable {s : Store} {shown : List JobSnapshot} {d : DeviceId} {c c' : Candidate}

/-- The snapshots of a list of jobs, in its order. -/
theorem snapshots_spec {ids : List JobId} (h : s.snapshots ids = .ok shown) :
    shown.map JobSnapshot.jobId = ids ∧ ∀ snapshot ∈ shown,
      ∃ k job, s.job? k = some job ∧ snapshot = s.jobSnapshot job := by
  induction ids generalizing shown with
  | nil =>
    cases h
    exact ⟨rfl, List.forall_mem_nil _⟩
  | cons k ids ih =>
    rw [Store.snapshots, List.mapM_cons] at h
    obtain ⟨first, hfirst, h⟩ := Except.bind_eq_ok.mp h
    obtain ⟨rest, hrest, h⟩ := Except.bind_eq_ok.mp h
    cases h
    obtain ⟨hids, hjobs⟩ := ih hrest
    rw [Store.snapshot] at hfirst
    split at hfirst
    · exact absurd hfirst (by simp)
    · rename_i job hjob
      cases hfirst
      refine ⟨?_, List.forall_mem_cons.mpr ⟨⟨k, job, hjob, rfl⟩, hjobs⟩⟩
      rw [List.map_cons, hids]
      exact congrArg (· :: ids) (jobId_of_job? hjob)

/-- The snapshots are those of jobs of the store. -/
def Shows (s : Store) (shown : List JobSnapshot) : Prop :=
  ∀ snapshot ∈ shown, ∃ k job, s.job? k = some job ∧ snapshot = s.jobSnapshot job

theorem shows_of_listSnapshots {newestFirst : List JobRow → List JobRow} {recentLimit : Nat}
    {cutoff : Millis} (h : s.listSnapshots newestFirst recentLimit cutoff = .ok shown) :
    Shows s shown := by
  obtain ⟨snapshots, hsnapshots, h⟩ := Except.bind_eq_ok.mp h
  cases h
  intro snapshot hmem
  rw [List.mem_insertionSort] at hmem
  exact (snapshots_spec hsnapshots).2 snapshot hmem

/-- The job and the row a candidate comes from. -/
structure FromRow (s : Store) (d : DeviceId) (c : Candidate) (job : JobRow) (row : DeviceRow) :
    Prop where
  job_found : s.job? job.jobId = some job
  row_found : s.device? job.jobId d = some row
  job_eq : c.job = s.jobSnapshot job
  assignment_eq : c.assignment = deviceSnapshot row (s.deviceFence job.jobId d)

theorem fromRow_of_mem (h : Shows s shown) (hc : c ∈ candidates shown d) :
    ∃ job row, FromRow s d c job row := by
  obtain ⟨snapshot, hmem, hfound⟩ := List.mem_filterMap.mp hc
  obtain ⟨assignment, hassignment, rfl⟩ := Option.map_eq_some_iff.mp hfound
  obtain ⟨k, job, hjob, rfl⟩ := h snapshot hmem
  obtain rfl := jobId_of_job? hjob
  have hdevice : assignment.deviceId = d := by simpa using List.find?_some hassignment
  obtain ⟨row, hrow, rfl⟩ := List.mem_map.mp (List.mem_of_find?_eq_some hassignment)
  rw [List.mem_insertionSort, mem_jobRows] at hrow
  have hd : row.deviceId = d := hdevice
  rw [hd] at hrow
  exact ⟨job, row, hjob, hrow, rfl, by rw [hd]⟩

theorem FromRow.eq_of_job {job : JobRow} {row row' : DeviceRow} (h : FromRow s d c job row)
    (h' : FromRow s d c' job row') : c = c' := by
  have hrow : row = row' := Option.some.inj (h.row_found.symm.trans h'.row_found)
  obtain ⟨snapshot, assignment⟩ := c
  obtain ⟨snapshot', assignment'⟩ := c'
  obtain rfl := h.job_eq.trans h'.job_eq.symm
  have hassignment := h.assignment_eq.trans ((hrow ▸ rfl : _ = _).trans h'.assignment_eq.symm)
  rw [Candidate.mk.injEq]
  exact ⟨rfl, hassignment⟩

/-- Two assignments of a device with the same place in the queue are one. -/
theorem eq_of_enqueueSeq (hwf : WellFormed s) (h : Shows s shown) (hc : c ∈ candidates shown d)
    (hc' : c' ∈ candidates shown d)
    (hseq : c.assignment.enqueueSeq = c'.assignment.enqueueSeq) : c = c' := by
  obtain ⟨job, row, hfrom⟩ := fromRow_of_mem h hc
  obtain ⟨job', row', hfrom'⟩ := fromRow_of_mem h hc'
  rw [hfrom.assignment_eq, hfrom'.assignment_eq] at hseq
  obtain ⟨hk, -⟩ := hwf.seqInj hfrom.row_found hfrom'.row_found hseq
  have hjob : job = job' := by
    have hfound := hfrom'.job_found
    rw [← hk] at hfound
    exact Option.some.inj (hfrom.job_found.symm.trans hfound)
  subst hjob
  exact hfrom.eq_of_job hfrom'

/-- A device has at most one active assignment. -/
theorem eq_of_active (hex : Exclusive s) (h : Shows s shown) (hc : c ∈ candidates shown d)
    (hc' : c' ∈ candidates shown d) (hactive : c.assignment.state.isActive)
    (hactive' : c'.assignment.state.isActive) : c = c' := by
  obtain ⟨job, row, hfrom⟩ := fromRow_of_mem h hc
  obtain ⟨job', row', hfrom'⟩ := fromRow_of_mem h hc'
  rw [hfrom.assignment_eq] at hactive
  rw [hfrom'.assignment_eq] at hactive'
  have hk := hex.activeUnique hfrom.row_found hfrom'.row_found hactive hactive'
  have hjob : job = job' := by
    have hfound := hfrom'.job_found
    rw [← hk] at hfound
    exact Option.some.inj (hfrom.job_found.symm.trans hfound)
  subst hjob
  exact hfrom.eq_of_job hfrom'

/-- The assignment that matters is one. -/
theorem Matters.unique (hwf : WellFormed s) (hex : Exclusive s) (h : Shows s shown)
    (hc : Matters shown d c) (hc' : Matters shown d c') : c = c' := by
  cases hc with
  | active hmem hactive =>
    cases hc' with
    | active hmem' hactive' => exact eq_of_active hex h hmem hmem' hactive hactive'
    | queued hmem' hidle hqueued hlive hfirst => exact absurd hactive (hidle c hmem)
    | newest hmem' hidle hdead hlast => exact absurd hactive (hidle c hmem)
  | queued hmem hidle hqueued hlive hfirst =>
    cases hc' with
    | active hmem' hactive' => exact absurd hactive' (hidle c' hmem')
    | queued hmem' hidle' hqueued' hlive' hfirst' =>
      exact eq_of_enqueueSeq hwf h hmem hmem' (Nat.le_antisymm (hfirst c' hmem' hqueued' hlive')
        (hfirst' c hmem hqueued hlive))
    | newest hmem' hidle' hdead hlast => exact absurd (hdead c hmem hqueued) hlive
  | newest hmem hidle hdead hlast =>
    cases hc' with
    | active hmem' hactive' => exact absurd hactive' (hidle c' hmem')
    | queued hmem' hidle' hqueued' hlive' hfirst' => exact absurd (hdead c' hmem' hqueued') hlive'
    | newest hmem' hidle' hdead' hlast' =>
      exact eq_of_enqueueSeq hwf h hmem hmem' (Nat.le_antisymm (hlast' c hmem) (hlast c' hmem'))

end Listed

/-! ### The choice -/

section Choice

variable {pushJobs : List JobSnapshot} {d : DeviceId} {c : Candidate}

theorem mem_activeStates {state : DeviceState} : state ∈ activeStates ↔ state.isActive := by
  rw [DeviceState.isActive, decide_eq_true_iff, activeStates]

theorem mem_terminalStates {state : DeviceState} : state ∈ terminalStates ↔ state.isTerminal := by
  rw [DeviceState.isTerminal, decide_eq_true_iff, terminalStates]

/-- **The three ways the console picks an assignment.** -/
theorem selectedAssignmentFor_cases (hsome : candidates pushJobs d ≠ []) :
    ∃ c ∈ candidates pushJobs d, selectedAssignmentFor pushJobs d = some c ∧
      (c.assignment.state.isActive ∨
        (∀ c' ∈ candidates pushJobs d, ¬ c'.assignment.state.isActive) ∧
          (FirstQueued pushJobs d c ∨
            (∀ c' ∈ candidates pushJobs d, c'.assignment.state ≠ .queued) ∧
            ∀ c' ∈ candidates pushJobs d,
              c'.assignment.enqueueSeq ≤ c.assignment.enqueueSeq)) := by
  rw [selectedAssignmentFor]
  rcases hactive : (((candidates pushJobs d).filter fun c =>
      c.assignment.state ∈ activeStates).insertionSort firstEnqueued).head? with _ | c
  · have hidle : ∀ c' ∈ candidates pushJobs d, ¬ c'.assignment.state.isActive := by
      intro c' hc' hstate
      have hnil := List.filter_eq_nil_iff.mp (head?_insertionSort_eq_none.mp hactive)
      exact hnil c' hc' (decide_eq_true (mem_activeStates.mpr hstate))
    rcases hqueued : (((candidates pushJobs d).filter fun c =>
        c.assignment.state = .queued).insertionSort firstEnqueued).head? with _ | c
    · have hnone : ∀ c' ∈ candidates pushJobs d, c'.assignment.state ≠ .queued := by
        intro c' hc' hstate
        have hnil := List.filter_eq_nil_iff.mp (head?_insertionSort_eq_none.mp hqueued)
        exact hnil c' hc' (decide_eq_true hstate)
      -- what is neither active nor queued is terminal
      have hall : ∀ c' ∈ candidates pushJobs d, c'.assignment.state.isTerminal := by
        intro c' hc'
        rcases c'.assignment.state.queued_or_active_or_terminal with h | h | h
        · exact absurd h (hnone c' hc')
        · exact absurd h (hidle c' hc')
        · exact h
      have hfilter : (candidates pushJobs d).filter (fun c =>
          c.assignment.state ∈ terminalStates) = candidates pushJobs d :=
        List.filter_eq_self.mpr fun c' hc' =>
          decide_eq_true (mem_terminalStates.mpr (hall c' hc'))
      rcases hterminal : ((candidates pushJobs d).insertionSort lastEnqueued).head? with _ | c
      · rw [head?_insertionSort_eq_none] at hterminal
        exact absurd hterminal hsome
      · obtain ⟨hmem, hlast⟩ := head?_insertionSort hterminal
        refine ⟨c, hmem, by simp only [hactive, hqueued, hfilter, hterminal, Option.none_or],
          .inr ⟨hidle, .inr ⟨hnone, fun c' hc' => ?_⟩⟩⟩
        rcases hlast c' hc' with hlt | ⟨heq, -⟩
        · exact hlt.le
        · exact heq.le
    · obtain ⟨hmem, hfirst⟩ := head?_insertionSort hqueued
      rw [List.mem_filter, decide_eq_true_iff] at hmem
      refine ⟨c, hmem.1, by simp only [hactive, hqueued, Option.none_or, Option.some_or],
        .inr ⟨hidle, .inl ⟨hmem.1, hmem.2, fun c' hc' hstate => ?_⟩⟩⟩
      exact hfirst c' (List.mem_filter.mpr ⟨hc', decide_eq_true hstate⟩)
  · obtain ⟨hmem, -⟩ := head?_insertionSort hactive
    rw [List.mem_filter, decide_eq_true_iff] at hmem
    exact ⟨c, hmem.1, by simp only [hactive, Option.some_or], .inl (mem_activeStates.mp hmem.2)⟩

end Choice

/-- **The console shows the assignment that matters, unless a dead job is in front of the queue.**
For every list of snapshots that `list_snapshots` returns in a reachable store and every device with
an assignment in it, the assignment that matters is one, and it is the one picked if and only if the
queue is live. -/
theorem selected_matters_iff (indexed : Bool) (calls : List (Millis × RuntimeCall))
    (newestFirst : List JobRow → List JobRow) (recentLimit : Nat) (cutoff : Millis)
    (shown : List JobSnapshot)
    (hlist : (runtimeExec indexed initial calls).listSnapshots newestFirst recentLimit cutoff =
      .ok shown)
    (d : DeviceId) (hsome : candidates shown d ≠ []) :
    (∀ c c', Matters shown d c → Matters shown d c' → c = c') ∧
    ((∃ c, selectedAssignmentFor shown d = some c ∧ Matters shown d c) ↔ QueueIsLive shown d) := by
  have hwf := (reachable_runtimeExec indexed calls).wellFormed
  have hex : Exclusive (runtimeExec indexed initial calls) := Exclusive.runtimeExec calls
  have hshows := shows_of_listSnapshots hlist
  refine ⟨fun c c' hc hc' => hc.unique hwf hex hshows hc', ?_⟩
  obtain ⟨c, hmem, hselected, hcases⟩ := selectedAssignmentFor_cases hsome
  have hiff : (∃ c, selectedAssignmentFor shown d = some c ∧ Matters shown d c) ↔
      Matters shown d c := by
    constructor
    · rintro ⟨c', hselected', hmatters⟩
      rw [hselected, Option.some.injEq] at hselected'
      exact hselected' ▸ hmatters
    · exact fun hmatters => ⟨c, hselected, hmatters⟩
  rw [hiff]
  rcases hcases with hactive | ⟨hidle, hfirst | ⟨hnone, hlast⟩⟩
  · exact ⟨fun _ => .inl ⟨c, hmem, hactive⟩, fun _ => .active hmem hactive⟩
  · constructor
    · intro hmatters
      refine .inr fun c' hc' => ?_
      obtain rfl : c = c' := eq_of_enqueueSeq hwf hshows hmem hc'.1
        (Nat.le_antisymm (hfirst.2.2 c' hc'.1 hc'.2.1) (hc'.2.2 c hmem hfirst.2.1))
      cases hmatters with
      | active hmem hactive => exact absurd hactive (hidle c hmem)
      | queued hmem hidle hqueued hlive hfirst => exact .inl hlive
      | newest hmem hidle hdead hlast => exact .inr ⟨hdead, hlast⟩
    · rintro (⟨c', hc', hactive⟩ | hlive)
      · exact absurd hactive (hidle c' hc')
      · rcases hlive c hfirst with hjob | ⟨hdead, hlast⟩
        · exact .queued hmem hidle hfirst.2.1 hjob fun c' hc' hqueued _ =>
            hfirst.2.2 c' hc' hqueued
        · exact .newest hmem hidle hdead hlast
  · constructor
    · exact fun _ => .inr fun c' hc' => absurd hc'.2.1 (hnone c' hc'.1)
    · exact fun _ => .newest hmem hidle (fun c' hc' hqueued => absurd hqueued (hnone c' hc')) hlast

/-- `ORDER BY updated_at DESC`. -/
private def byUpdatedAt (jobs : List JobRow) : List JobRow :=
  jobs.insertionSort fun left right => right.updatedAt ≤ left.updatedAt

/-- A job whose upload never starts, and a second one for the same device. -/
private def abandonedRun : List (Millis × RuntimeCall) :=
  [(10, .createJob "job-1" (pushRequest "request-1" "quest-1") jobV1Protocols 1000),
   (1010, .expireCreated "job-1" 1010),
   (1020, .createJob "job-2" (pushRequest "request-2" "quest-1") jobV1Protocols 1000)]

/-- What the console lists after the run. -/
private def abandonedShown : List JobSnapshot :=
  (((runtimeExec true initial abandonedRun).listSnapshots byUpdatedAt 100 0).toOption).getD []

/-- What the console reads of a candidate. -/
private def summary (c : Candidate) : JobId × JobState × DeviceState × Nat :=
  (c.job.jobId, c.job.state, c.assignment.state, c.assignment.enqueueSeq)

private theorem abandoned_candidates :
    (runtimeExec true initial abandonedRun).listSnapshots byUpdatedAt 100 0 = .ok abandonedShown ∧
    (candidates abandonedShown "quest-1").map summary =
      [("job-2", .created, .queued, 2), ("job-1", .interrupted, .queued, 1)] ∧
    (selectedAssignmentFor abandonedShown "quest-1").map summary =
      some ("job-1", .interrupted, .queued, 1) := by
  decide +kernel

private theorem abandoned_ne_nil : candidates abandonedShown "quest-1" ≠ [] := by
  intro hnil
  have hsummaries := abandoned_candidates.2.1
  rw [hnil] at hsummaries
  exact absurd hsummaries (by simp)

/-- The list of this store, in which the queue is not live. -/
theorem selected_matters_iff_abandoned :
    candidates abandonedShown "quest-1" ≠ [] ∧
    ((∃ c, selectedAssignmentFor abandonedShown "quest-1" = some c ∧
      Matters abandonedShown "quest-1" c) ↔ QueueIsLive abandonedShown "quest-1") :=
  ⟨abandoned_ne_nil, (selected_matters_iff true abandonedRun byUpdatedAt 100 0 abandonedShown
    abandoned_candidates.1 "quest-1" abandoned_ne_nil).2⟩

/-- The console shows the assignment of the job whose upload never started, and not the one of the
job that waits for its upload. -/
theorem abandoned_job_selected :
    ¬ ∀ (calls : List (Millis × RuntimeCall)) (recentLimit : Nat) (cutoff : Millis)
      (shown : List JobSnapshot) (d : DeviceId), RuntimeRun true initial calls →
      (runtimeExec true initial calls).listSnapshots byUpdatedAt recentLimit cutoff = .ok shown →
      candidates shown d ≠ [] →
      ∃ c, selectedAssignmentFor shown d = some c ∧ Matters shown d c := by
  intro h
  obtain ⟨c, hselected, hmatters⟩ := h abandonedRun 100 0 abandonedShown "quest-1"
    ⟨trivial, trivial, trivial, trivial⟩ abandoned_candidates.1 abandoned_ne_nil
  obtain ⟨hlist, hcandidates, hsummary⟩ := abandoned_candidates
  rw [hselected, Option.map_some, Option.some.injEq] at hsummary
  simp only [summary, Prod.mk.injEq] at hsummary
  obtain ⟨-, hjob, hstate, -⟩ := hsummary
  obtain ⟨live, hlive, hsummary'⟩ : ∃ live ∈ candidates abandonedShown "quest-1",
      summary live = ("job-2", .created, .queued, 2) :=
    List.mem_map.mp (hcandidates ▸ List.mem_cons_self)
  simp only [summary, Prod.mk.injEq] at hsummary'
  cases hmatters with
  | active hmem hactive => exact absurd hactive (by rw [hstate]; decide)
  | queued hmem hidle hqueued hlive hfirst => exact hlive (by rw [hjob]; rfl)
  | newest hmem hidle hdead hlast =>
    have hterminal := hdead live hlive hsummary'.2.2.1
    rw [hsummary'.2.1] at hterminal
    exact absurd hterminal (by decide)

end StylyMdm.Console
