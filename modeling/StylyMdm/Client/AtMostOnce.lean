import StylyMdm.Client.Durable

/-!
# At most one execution of a command

A command that the worker has started is the active one of the file until its result, or the
result of its interruption, is recorded among the completed receipts. While a receipt of the
command is there, the command is answered from it. A receipt leaves the list by its age, or when
256 receipts have been recorded behind it: results of other executions, and acknowledged results,
which are taken out of the list and recorded again at its end.

The argument has three layers.

* **Lists.** `Kept x n` says that a receipt of the identity `x` is among the last entries, with at
  most `n` others behind it. Appending one entry costs one place, trimming costs nothing as long as
  the receipt is young enough.
* **Changes of the file.** `FileChange` forgets the messages and keeps what a save does to the two
  lists and to the active command. `FileChange.kept` says what it does to `Kept`, and
  `FileChange.holding` that an active command stays active or is recorded.
* **Runs.** `recordings` counts what a run records. Between two starts of one identity a receipt of
  it was recorded (`Device.Sound.recorded_between_starts`), and it was lost again, by age at one of
  the saves or loads (`NotAged` says of a run that this did not happen) or behind 256 others.

`worker_started_at_most_once` states this for every run, with what holds of the gate, the file and
the messages in each of its states.
-/

namespace StylyMdm.Client

/-! ### Receipts near the end of a list -/

/-- The list has a receipt of `x` with at most `n` receipts behind it. -/
def Kept (x : String × Int) (n : Nat) (l : List Receipt) : Prop :=
  ∃ pre receipt post, l = pre ++ receipt :: post ∧ receipt.command.identity = some x ∧
    post.length ≤ n

section Kept

variable {x : String × Int} {n m : Nat} {l : List Receipt} {receipt : Receipt}

/-- A receipt that is kept is there. -/
theorem Kept.mem (h : Kept x n l) : ∃ receipt ∈ l, receipt.command.identity = some x := by
  obtain ⟨pre, receipt, post, rfl, hid, -⟩ := h
  exact ⟨receipt, by simp, hid⟩

/-- The last receipt has none behind it. -/
theorem kept_append_self (hid : receipt.command.identity = some x) : Kept x 0 (l ++ [receipt]) :=
  ⟨l, receipt, [], rfl, hid, le_rfl⟩

/-- One more receipt comes behind. -/
theorem Kept.append (h : Kept x n l) : Kept x (n + 1) (l ++ [receipt]) := by
  obtain ⟨pre, receipt', post, rfl, hid, hlen⟩ := h
  refine ⟨pre, receipt', post ++ [receipt], by simp, hid, ?_⟩
  simpa using hlen

/-- The bound may be raised. -/
theorem Kept.mono (h : Kept x n l) (hnm : n ≤ m) : Kept x m l := by
  obtain ⟨pre, receipt, post, hl, hid, hlen⟩ := h
  exact ⟨pre, receipt, post, hl, hid, hlen.trans hnm⟩

/-- A cut keeps what is near enough to the end. -/
theorem Kept.takeLast (h : Kept x n l) (hn : n < m) : Kept x n (takeLast m l) := by
  obtain ⟨pre, receipt, post, rfl, hid, hlen⟩ := h
  rw [takeLast_append_cons (hlen.trans_lt hn)]
  exact ⟨_, receipt, post, rfl, hid, hlen⟩

/-- A filter that keeps the receipts of `x` puts none behind them. -/
theorem Kept.filter {p : Receipt → Bool} (h : Kept x n l)
    (hp : ∀ receipt ∈ l, receipt.command.identity = some x → p receipt) :
      Kept x n (l.filter p) := by
  obtain ⟨pre, receipt, post, rfl, hid, hlen⟩ := h
  refine ⟨pre.filter p, receipt, post.filter p, ?_, hid, (List.length_filter_le _ _).trans hlen⟩
  rw [List.filter_append, List.filter_cons_of_pos (hp receipt (by simp) hid)]

/-- No receipt of `x` in the list is too old for a save at `now`. -/
def Fresh (x : String × Int) (now : Int) (l : List Receipt) : Prop :=
  ∀ receipt ∈ l, receipt.command.identity = some x → keptAt (now - receiptRetentionMs) receipt

/-- A trim keeps a receipt that is fresh and near enough to the end. -/
theorem Kept.trim {now : Int} {state : State} (h : Kept x n state.completedReceipts)
    (hn : n < maxReceipts) (hfresh : Fresh x now state.completedReceipts) :
    Kept x n (trim now state).completedReceipts := by
  rw [trim_completedReceipts]
  exact (h.filter hfresh).takeLast hn

/-- A trim adds no receipt. -/
theorem mem_of_mem_trim {now : Int} {state : State}
    (h : receipt ∈ (trim now state).completedReceipts) : receipt ∈ state.completedReceipts := by
  rw [trim_completedReceipts] at h
  exact List.mem_of_mem_filter (mem_of_mem_takeLast h)

end Kept

/-! ### Changes of the file -/

/-- The receipts carry the results of their own commands. -/
def ReceiptsMatch (state : State) : Prop :=
  ∀ receipt ∈ state.pendingResults ++ state.completedReceipts,
    receipt.result.jobId = receipt.command.jobId ∧ receipt.result.attempt = receipt.command.attempt

/-- The states the client saves, before they are trimmed, each with the receipt it records. The
start-up has trimmed the file at the value of the clock in `load`. -/
inductive FileChange (load : Option Int) (file : State) : State → Option Receipt → Prop
  | accept {command : Command} (hidle : file.active = none)
      (hnew : terminalReceipt file command = none) :
    FileChange load file { file with active := some ⟨command, .downloading⟩ } none
  | phase {active : Active} {phase : Phase} (hactive : file.active = some active) :
    FileChange load file { file with active := some { active with phase } } none
  | terminal {active : Active} {command : Command} {outcome : Outcome} {completedAt : Int}
      (hactive : file.active = some active)
      (hsame : active.command.identity = command.identity) :
    FileChange load file
      { active := none
        pendingResults :=
          if command.isJobV1 then
            file.pendingResults ++ [⟨command, outcome.result command completedAt⟩]
          else file.pendingResults
        completedReceipts := takeLast maxReceipts
          (file.completedReceipts ++ [⟨command, outcome.result command completedAt⟩]) }
      (some ⟨command, outcome.result command completedAt⟩)
  | ack {ack : ResultAck} {settled : Receipt} {next : State}
      (happly : applyPushResultAckToState file ack maxReceipts = some (settled, next)) :
    FileChange load file next (some settled)
  | start {now completedAt : Int} (hload : load = some now) :
    FileChange load file (recover completedAt (trim now file)).1
      (recover completedAt (trim now file)).2

/-- What an event commits is a change of the file, since memory and file agree. -/
theorem Commit.fileChange {p : Process} {file : State} {load : Option Int} {event : Event}
    {next : State} {recorded : Option Receipt} {gate worker : Option Command}
    (h : Commit p.coordinator event next recorded gate worker) (hp : p.Valid file) :
    FileChange load file next recorded := by
  have hmemory := hp.memory (h.startSaved hp)
  have hgate := hp.gate
  cases h with
  | accept hnew hd hfree =>
    rw [hmemory] at hnew hgate ⊢
    refine .accept ?_ hnew
    rw [hfree] at hgate
    exact Option.map_eq_none_iff.mp hgate.symm
  | phase hactive hevent hother =>
    rw [hmemory] at hactive ⊢
    exact .phase hactive
  | terminal hcurrent =>
    rw [Coordinator.isCurrent, hmemory, Option.any_eq_true] at hcurrent
    obtain ⟨active, hactive, hsame⟩ := hcurrent
    rw [hmemory]
    exact .terminal hactive (by simpa using hsame)
  | ack happly =>
    rw [hmemory] at happly
    exact .ack happly

/-- The origin of a save: the recovery at start-up, or a commit of the event of the step. -/
def Device.Saves (d : Device) (s : Step) (next : State) (recorded : Option Receipt) : Prop :=
  (s.event? = none ∧ ∃ clock, s.startClock? = some clock ∧
    recover clock.completedAt (trim clock.load d.file) = (next, recorded)) ∨
  ∃ p event gate worker, d.process = some p ∧ s.event? = some event ∧ Device.enabled p event ∧
    Commit p.coordinator event next recorded gate worker

/-- So is whatever a step saves. -/
theorem Device.Saves.fileChange {d : Device} {s : Step} {next : State} {recorded : Option Receipt}
    (h : d.Saves s next recorded) (hd : d.Valid) :
    FileChange (s.startClock?.map StartClock.load) d.file next recorded := by
  rcases h with ⟨-, clock, hclock, hrecover⟩ | ⟨p, event, gate, worker, hp, -, -, hcommit⟩
  · obtain ⟨rfl, rfl⟩ := Prod.mk.inj hrecover
    exact .start (by rw [hclock, Option.map_some])
  · exact hcommit.fileChange (hd p hp)

/-- The file after a step: as before, or saved by the first action. -/
theorem Device.save_cases (d : Device) (s : Step) :
    ((d.step s).file = d.file ∧ ∀ now state recorded, .save now state recorded ∉ d.actions s) ∨
    ∃ next recorded rest, d.actions s = .save s.clock (trim s.clock next) recorded :: rest ∧
      (∀ now' state' recorded', .save now' state' recorded' ∉ rest) ∧
      (d.step s).file = trim s.clock next ∧ d.Saves s next recorded := by
  have hunchanged : ∀ {actions : List Action},
      (∀ action ∈ actions, ∀ now state recorded, action ≠ .save now state recorded) →
      d.actions s = actions → (d.step s).file = d.file ∧
        ∀ now state recorded, .save now state recorded ∉ d.actions s := by
    intro actions hnone hactions
    refine ⟨?_, fun now state recorded hmem => ?_⟩
    · rw [Device.step, hactions]
      exact fileAfter_eq_self hnone
    · rw [hactions] at hmem
      exact hnone _ hmem now state recorded rfl
  -- a save comes first; a kill before it leaves the file alone
  have hfirst : ∀ {next recorded rest rest'},
      .save s.clock (trim s.clock next) recorded :: rest' = d.actions s ++ rest →
      (∀ action ∈ rest', ∀ now state recorded, action ≠ .save now state recorded) →
      d.Saves s next recorded →
      ((d.step s).file = d.file ∧ ∀ now state recorded, .save now state recorded ∉ d.actions s) ∨
      ∃ next recorded rest, d.actions s = .save s.clock (trim s.clock next) recorded :: rest ∧
        (∀ now' state' recorded', .save now' state' recorded' ∉ rest) ∧
        (d.step s).file = trim s.clock next ∧ d.Saves s next recorded := by
    intro next recorded rest rest' hfull hrest' hsaves
    rcases hactions : d.actions s with _ | ⟨first, actions⟩
    · rw [← hactions]
      exact .inl (hunchanged (by simp) hactions)
    · rw [hactions, List.cons_append, List.cons.injEq] at hfull
      obtain ⟨rfl, rfl⟩ := hfull
      have hnone : ∀ action ∈ actions, ∀ now state recorded, action ≠ .save now state recorded :=
        fun action haction => hrest' action (List.mem_append_left _ haction)
      refine .inr ⟨next, recorded, actions, rfl, ?_, ?_, hsaves⟩
      · intro now' state' recorded' hmem
        exact hnone _ hmem now' state' recorded' rfl
      · rw [Device.step, hactions]
        exact fileAfter_eq_self hnone
  rcases d.actions_cases s with hnil | ⟨-, hevent, clock, saveOk, rest, hclock, hfull⟩ |
    ⟨p, saveOk, event, rest, hp, hevent, henabled, hfull⟩
  · exact .inl (hunchanged (by simp) hnil)
  · rcases start_cases clock saveOk d.file with
      ⟨-, -, -, -, rest', hstart, hrest'⟩ | ⟨-, -, hstart⟩
    · rw [hstart, ← Step.clock_eq_save hclock] at hfull
      exact hfirst hfull (fun action haction => (hrest' action haction).ne_save)
        (.inl ⟨hevent, clock, hclock, rfl⟩)
    · rw [hstart] at hfull
      exact .inl (hunchanged (by simp) (List.append_eq_nil_iff.mp hfull.symm).1)
  · have hhandled := handled p.coordinator s.clock saveOk event
    rw [hfull] at hhandled
    generalize hactions : d.actions s ++ rest = actions at hhandled
    generalize (p.coordinator.handle s.clock saveOk event).1 = c' at hhandled
    cases hhandled with
    | quiet hstate hgate hdurable hharmless =>
      refine .inl (hunchanged (fun action haction => ?_) rfl)
      exact (hharmless action (hactions ▸ List.mem_append_left _ haction)).ne_save
    | commit hcommit hrest =>
      refine hfirst hactions.symm (fun action haction => ?_)
        (.inr ⟨p, event, _, _, hp, hevent, henabled, hcommit⟩)
      rcases List.mem_append.mp haction with h | h
      · exact (hrest action h).ne_save
      · obtain ⟨command, -, rfl⟩ := List.mem_map.mp h
        simp

section Change

variable {now : Int} {load : Option Int} {file next : State} {recorded : Option Receipt}
  {x : String × Int} {n : Nat}

/-- What an acknowledgement settles and saves. -/
theorem applyPushResultAckToState_eq_some {ack : ResultAck} {settled : Receipt} {m : Nat}
    (h : applyPushResultAckToState file ack m = some (settled, next)) :
    settled ∈ file.pendingResults ∧ ack.matches settled ∧ next = { file with
      pendingResults := file.pendingResults.filter fun receipt => !ack.matches receipt
      completedReceipts := takeLast m
        ((file.completedReceipts.filter fun receipt => !ack.matches receipt) ++ [settled]) } := by
  unfold applyPushResultAckToState at h
  split at h
  · exact absurd h (by simp)
  · split at h
    · exact absurd h (by simp)
    · rename_i settled' hlast
      simp only [Option.some.injEq, Prod.mk.injEq] at h
      obtain ⟨rfl, rfl⟩ := h
      have hmem := List.mem_filter.mp (List.mem_of_getLast? hlast)
      exact ⟨hmem.1, hmem.2, rfl⟩

/-- What `recover` saves and records. -/
theorem recover_eq (now : Int) (file : State) :
    (file.active = none ∧ recover now file = (file, none)) ∨
    ∃ active receipt, file.active = some active ∧ receipt.command = active.command ∧
      receipt.result.jobId = active.command.jobId ∧
      receipt.result.attempt = active.command.attempt ∧
      recover now file = ({
        active := none
        pendingResults :=
          if active.command.isJobV1 then file.pendingResults ++ [receipt] else file.pendingResults
        completedReceipts := takeLast maxReceipts (file.completedReceipts ++ [receipt]) },
        some receipt) := by
  rcases hactive : file.active with _ | active
  · exact .inl ⟨rfl, by rw [recover, hactive]⟩
  · exact .inr ⟨active, ⟨active.command, interruptedResult active.command now⟩, rfl, rfl, rfl, rfl,
      by rw [recover, hactive]⟩

/-- The result of an outcome is one of its command. -/
theorem Outcome.result_matches (outcome : Outcome) (command : Command) (completedAt : Int) :
    (outcome.result command completedAt).jobId = command.jobId ∧
      (outcome.result command completedAt).attempt = command.attempt := by
  cases outcome <;> exact ⟨rfl, rfl⟩

/-- The receipts that are saved were there before, or are recorded now. -/
theorem FileChange.mem_next (h : FileChange load file next recorded) {receipt : Receipt}
    (hmem : receipt ∈ next.pendingResults ++ next.completedReceipts) :
    receipt ∈ file.pendingResults ++ file.completedReceipts ∨ recorded = some receipt := by
  rw [List.mem_append] at hmem ⊢
  cases h with
  | accept hidle hnew => exact .inl hmem
  | phase hactive => exact .inl hmem
  | terminal hactive hsame =>
    rcases hmem with hmem | hmem
    · simp only at hmem
      split at hmem
      · rcases List.mem_append.mp hmem with h | h
        · exact .inl (.inl h)
        · exact .inr (by rw [List.mem_singleton.mp h])
      · exact .inl (.inl hmem)
    · rcases List.mem_append.mp (mem_of_mem_takeLast hmem) with h | h
      · exact .inl (.inr h)
      · exact .inr (by rw [List.mem_singleton.mp h])
  | ack happly =>
    obtain ⟨hsettled, -, rfl⟩ := applyPushResultAckToState_eq_some happly
    rcases hmem with hmem | hmem
    · exact .inl (.inl (List.mem_of_mem_filter hmem))
    · rcases List.mem_append.mp (mem_of_mem_takeLast hmem) with h | h
      · exact .inl (.inr (List.mem_of_mem_filter h))
      · exact .inr (by rw [List.mem_singleton.mp h])
  | start hload =>
    rename_i now completedAt
    have hold : ∀ {receipt}, receipt ∈ (trim now file).pendingResults →
        receipt ∈ file.pendingResults := by
      intro receipt hreceipt
      rw [trim_pendingResults] at hreceipt
      exact mem_of_mem_takeLast hreceipt
    rcases recover_eq completedAt (trim now file) with ⟨-, heq⟩ |
      ⟨active, receipt', -, -, -, -, heq⟩
    · rw [heq] at hmem
      exact .inl (hmem.imp hold mem_of_mem_trim)
    · rw [heq] at hmem ⊢
      rcases hmem with hmem | hmem
      · simp only at hmem
        split at hmem
        · rcases List.mem_append.mp hmem with h | h
          · exact .inl (.inl (hold h))
          · exact .inr (by rw [List.mem_singleton.mp h])
        · exact .inl (.inl (hold hmem))
      · rcases List.mem_append.mp (mem_of_mem_takeLast hmem) with h | h
        · exact .inl (.inr (mem_of_mem_trim h))
        · exact .inr (by rw [List.mem_singleton.mp h])

/-- A recorded receipt carries the result of its command. -/
theorem FileChange.recorded_matches (h : FileChange load file next recorded)
    (hm : ReceiptsMatch file) {receipt : Receipt} (hr : recorded = some receipt) :
    receipt.result.jobId = receipt.command.jobId ∧
      receipt.result.attempt = receipt.command.attempt := by
  cases h with
  | accept hidle hnew => exact absurd hr (by simp)
  | phase hactive => exact absurd hr (by simp)
  | terminal hactive hsame =>
    rw [Option.some.injEq] at hr
    subst hr
    exact Outcome.result_matches _ _ _
  | ack happly =>
    rw [Option.some.injEq] at hr
    subst hr
    exact hm _ (List.mem_append_left _ (applyPushResultAckToState_eq_some happly).1)
  | start hload =>
    rename_i now completedAt
    rcases recover_eq completedAt (trim now file) with ⟨-, heq⟩ |
      ⟨active, receipt', -, hcommand, hjob, hattempt, heq⟩
    · rw [heq] at hr
      exact absurd hr (by simp)
    · rw [heq] at hr
      simp only [Option.some.injEq] at hr
      subst hr
      rw [hcommand]
      exact ⟨hjob, hattempt⟩

/-- **A save keeps the results with their commands.** -/
theorem FileChange.receiptsMatch (h : FileChange load file next recorded)
    (hm : ReceiptsMatch file) : ReceiptsMatch (trim now next) := by
  intro receipt hreceipt
  have hmem : receipt ∈ next.pendingResults ++ next.completedReceipts := by
    rw [List.mem_append] at hreceipt ⊢
    refine hreceipt.imp (fun hreceipt => ?_) mem_of_mem_trim
    rw [trim_pendingResults] at hreceipt
    exact mem_of_mem_takeLast hreceipt
  rcases h.mem_next hmem with hold | hnew
  · exact hm receipt hold
  · exact h.recorded_matches hm hnew

/-- The completed receipts that are saved were completed before, or are recorded now. -/
theorem FileChange.mem_completed (h : FileChange load file next recorded) {receipt : Receipt}
    (hmem : receipt ∈ next.completedReceipts) :
    receipt ∈ file.completedReceipts ++ recorded.toList := by
  have hlast : ∀ {l : List Receipt} {receipt' : Receipt}, receipt ∈ takeLast maxReceipts
      (l ++ [receipt']) → (∀ r ∈ l, r ∈ file.completedReceipts) →
      receipt ∈ file.completedReceipts ++ (some receipt').toList := by
    intro l receipt' hreceipt hl
    rcases List.mem_append.mp (mem_of_mem_takeLast hreceipt) with h | h
    · exact List.mem_append_left _ (hl receipt h)
    · exact List.mem_append_right _ (by simpa using h)
  cases h with
  | accept hidle hnew => exact List.mem_append_left _ hmem
  | phase hactive => exact List.mem_append_left _ hmem
  | terminal hactive hsame => exact hlast hmem fun _ h => h
  | ack happly =>
    obtain ⟨-, -, rfl⟩ := applyPushResultAckToState_eq_some happly
    exact hlast hmem fun _ h => List.mem_of_mem_filter h
  | start hload =>
    rename_i now completedAt
    rcases recover_eq completedAt (trim now file) with ⟨-, heq⟩ |
      ⟨active, receipt', -, -, -, -, heq⟩
    · rw [heq] at hmem
      exact List.mem_append_left _ (mem_of_mem_trim hmem)
    · rw [heq] at hmem ⊢
      exact hlast hmem fun _ h => mem_of_mem_trim h

/-- The receipt that is recorded is the last one. -/
theorem FileChange.kept_recorded (h : FileChange load file next recorded) {receipt : Receipt}
    (hr : recorded = some receipt) (hid : receipt.command.identity = some x) :
    Kept x 0 next.completedReceipts := by
  have hpos : 0 < maxReceipts := by simp [maxReceipts]
  cases h with
  | accept hidle hnew => exact absurd hr (by simp)
  | phase hactive => exact absurd hr (by simp)
  | terminal hactive hsame =>
    rw [Option.some.injEq] at hr
    exact (kept_append_self (by rw [hr, hid])).takeLast hpos
  | ack happly =>
    obtain ⟨-, -, rfl⟩ := applyPushResultAckToState_eq_some happly
    rw [Option.some.injEq] at hr
    exact (kept_append_self (by rw [hr, hid])).takeLast hpos
  | start hload =>
    rename_i now completedAt
    rcases recover_eq completedAt (trim now file) with ⟨-, heq⟩ |
      ⟨active, receipt', -, -, -, -, heq⟩
    · rw [heq] at hr
      exact absurd hr (by simp)
    · rw [heq] at hr ⊢
      rw [Option.some.injEq] at hr
      exact (kept_append_self (by rw [hr, hid])).takeLast hpos

/-- An acknowledgement names one identity. -/
theorem identity_eq_of_matches {receipt other : Receipt} {ack : ResultAck}
    (hreceipt : receipt.result.jobId = receipt.command.jobId ∧
      receipt.result.attempt = receipt.command.attempt)
    (hother : other.result.jobId = other.command.jobId ∧
      other.result.attempt = other.command.attempt)
    (hmatches : ack.matches receipt) (hmatches' : ack.matches other) :
    receipt.command.identity = other.command.identity := by
  rw [ResultAck.matches, Bool.and_eq_true, decide_eq_true_eq, decide_eq_true_eq]
    at hmatches hmatches'
  rw [Command.identity, Command.identity, ← hreceipt.1, ← hreceipt.2, ← hother.1, ← hother.2,
    hmatches.1, hmatches.2, hmatches'.1, hmatches'.2]

/-- **Recording puts at most one receipt behind the others.** -/
theorem FileChange.kept (h : FileChange load file next recorded) (hm : ReceiptsMatch file)
    (hkept : Kept x n file.completedReceipts)
    (hfresh : Fresh x now (file.completedReceipts ++ recorded.toList))
    (hloaded : ∀ now ∈ load, Fresh x now file.completedReceipts)
    (hn : n + recorded.toList.length < maxReceipts) :
    Kept x (n + recorded.toList.length) (trim now next).completedReceipts := by
  refine Kept.trim ?_ hn fun receipt hreceipt => hfresh receipt (h.mem_completed hreceipt)
  by_cases hself : ∃ receipt, recorded = some receipt ∧ receipt.command.identity = some x
  · obtain ⟨receipt, hr, hid⟩ := hself
    exact (h.kept_recorded hr hid).mono (Nat.zero_le _)
  · cases h with
    | accept hidle hnew => exact hkept
    | phase hactive => exact hkept
    | terminal hactive hsame => exact hkept.append.takeLast hn
    | ack happly =>
      rename_i ack settled
      obtain ⟨hsettled, hmatches, rfl⟩ := applyPushResultAckToState_eq_some happly
      refine (Kept.append (hkept.filter fun receipt hreceipt hid => ?_)).takeLast hn
      -- an acknowledgement of another result does not name a receipt of `x`
      by_contra hnot
      have hsame : ack.matches receipt := by simpa using hnot
      refine hself ⟨settled, rfl, ?_⟩
      rw [← hid]
      exact identity_eq_of_matches (hm settled (List.mem_append_left _ hsettled))
        (hm receipt (List.mem_append_right _ hreceipt)) hmatches hsame
    | start hload =>
      rename_i loaded completedAt
      have htrim : ∀ {m : Nat}, m < maxReceipts → Kept x m file.completedReceipts →
          Kept x m (trim loaded file).completedReceipts := fun hm' hk =>
        Kept.trim hk hm' (hloaded loaded hload)
      rcases recover_eq completedAt (trim loaded file) with ⟨-, heq⟩ |
        ⟨active, receipt', -, -, -, -, heq⟩
      · rw [heq] at hn ⊢
        exact htrim hn hkept
      · rw [heq] at hn ⊢
        have hn' : n < maxReceipts := by
          simp only [Option.toList_some, List.length_singleton] at hn
          omega
        exact (htrim hn' hkept).append.takeLast hn

/-- The active execution is one of `x`. -/
def Holding (x : String × Int) (file : State) : Prop :=
  ∃ active, file.active = some active ∧ active.command.identity = some x

/-- The active execution stays until its receipt is recorded. -/
theorem FileChange.holding (h : FileChange load file next recorded) (hh : Holding x file) :
    Holding x (trim now next) ∨
      ∃ receipt, recorded = some receipt ∧ receipt.command.identity = some x := by
  obtain ⟨active, hactive, hid⟩ := hh
  cases h with
  | accept hidle hnew => exact absurd (hidle.symm.trans hactive) (by simp)
  | phase hactive' =>
    rename_i active' phase
    rw [hactive, Option.some.injEq] at hactive'
    subst hactive'
    exact .inl ⟨_, trim_active _ _, hid⟩
  | terminal hactive' hsame =>
    rw [hactive, Option.some.injEq] at hactive'
    subst hactive'
    exact .inr ⟨_, rfl, hsame.symm.trans hid⟩
  | ack happly =>
    obtain ⟨-, -, rfl⟩ := applyPushResultAckToState_eq_some happly
    exact .inl ⟨active, (trim_active _ _).trans hactive, hid⟩
  | start hload =>
    rename_i now completedAt
    rcases recover_eq completedAt (trim now file) with ⟨hnone, -⟩ |
      ⟨active', receipt, hactive', hcommand, -, -, heq⟩
    · rw [trim_active, hactive] at hnone
      exact absurd hnone (by simp)
    · rw [trim_active, hactive, Option.some.injEq] at hactive'
      subst hactive'
      rw [heq]
      exact .inr ⟨receipt, rfl, by rw [hcommand, hid]⟩

end Change

/-! ### Starts -/

/-- The starts of two lists of actions. -/
theorem started_append (actions actions' : List Action) :
    started (actions ++ actions') = started actions ++ started actions' := List.filterMap_append

/-- A worker is started for a command that is neither active nor settled, after the acceptance has
been saved. -/
theorem Device.Valid.started_spec {d : Device} (hd : d.Valid) (s : Step) {c : Command}
    (h : c ∈ started (d.actions s)) :
    d.file.active = none ∧ terminalReceipt d.file c = none ∧
      (d.step s).file.active = some ⟨c, .downloading⟩ ∧ started (d.actions s) = [c] := by
  have hcases := d.actions_cases s
  generalize s.clock = now at hcases
  rcases hcases with hnil | ⟨-, -, clock, saveOk, rest, -, hfull⟩ |
    ⟨p, saveOk, event, rest, hp, -, -, hfull⟩
  · rw [hnil] at h
    exact absurd h (by simp [started])
  · -- the start-up block starts no worker
    have hmem : c ∈ started (Coordinator.start clock saveOk d.file).2 := by
      rw [hfull, started_append]
      exact List.mem_append_left _ h
    rcases start_cases clock saveOk d.file with
      ⟨-, -, -, -, rest', hstart, hrest'⟩ | ⟨-, -, hstart⟩
    · have hnone := started_of_harmless hrest'
      rw [hstart, started, List.filterMap_cons_none rfl] at hmem
      rw [started] at hnone
      rw [hnone] at hmem
      exact absurd hmem (by simp)
    · rw [hstart] at hmem
      exact absurd hmem (by simp [started])
  · have hv := hd p hp
    have hhandled := handled p.coordinator now saveOk event
    rw [hfull] at hhandled
    generalize hactions : d.actions s ++ rest = actions at hhandled
    generalize (p.coordinator.handle now saveOk event).1 = c' at hhandled
    cases hhandled with
    | quiet hstate hgate hdurable hharmless =>
      have hnone := started_of_harmless hharmless
      rw [← hactions, started_append] at hnone
      rw [(List.append_eq_nil_iff.mp hnone).1] at h
      exact absurd h (by simp)
    | commit hcommit hrest =>
      rename_i next recorded gate worker sends
      have hworker : started (d.actions s) ++ started rest = worker.toList := by
        have hzero := started_of_harmless hrest
        rw [← started_append, hactions]
        rw [started] at hzero ⊢
        rw [List.filterMap_cons_none rfl, List.filterMap_append, hzero, List.nil_append,
          List.filterMap_map]
        exact List.filterMap_some
      have hc : worker = some c := by
        have hmem : c ∈ worker.toList := by
          rw [← hworker]
          exact List.mem_append_left _ h
        simpa using hmem
      subst hc
      have hone : started (d.actions s) = [c] := by
        rcases hlist : started (d.actions s) with _ | ⟨c', others⟩
        · rw [hlist] at h
          exact absurd h (by simp)
        · rw [hlist, Option.toList_some, List.cons_append, List.cons.injEq] at hworker
          rw [hworker.1, (List.append_eq_nil_iff.mp hworker.2).1]
      have hmemory := hv.memory (hcommit.startSaved hv)
      have hgate := hv.gate
      rcases d.save_cases s with ⟨-, hnosave⟩ | ⟨next', recorded', rest', hsave, -, hfile, -⟩
      · -- the save comes before the start
        rcases hlist : d.actions s with _ | ⟨first, others⟩
        · rw [hlist] at h
          exact absurd h (by simp [started])
        · rw [hlist, List.cons_append, List.cons.injEq] at hactions
          exact absurd (by rw [hlist, hactions.1]; exact List.mem_cons_self)
            (hnosave now (trim now next) recorded)
      · rw [hsave, List.cons_append, List.cons.injEq] at hactions
        injection hactions.1 with hnow hstate' hrecorded
        cases hcommit with
        | accept hnew hdurable hfree =>
          rw [hmemory] at hnew hgate hstate'
          rw [hfree] at hgate
          refine ⟨Option.map_eq_none_iff.mp hgate.symm, hnew, ?_, hone⟩
          rw [hfile, hstate', trim_active]

/-- A new command has no receipt. -/
theorem ne_of_terminalReceipt_eq_none {file : State} {c : Command}
    (h : terminalReceipt file c = none) (hc : c.isJobV1) {receipt : Receipt}
    (hmem : receipt ∈ file.pendingResults ++ file.completedReceipts) :
    receipt.command.identity ≠ c.identity := by
  intro hid
  obtain ⟨hjob, hattempt⟩ := (identity_eq_iff hc).mp hid.symm
  have hsame : sameIdentity receipt.command c := by
    rw [Command.isJobV1] at hc
    simp [sameIdentity, ← hjob, ← hattempt, hc]
  rw [terminalReceipt, Option.or_eq_none_iff] at h
  rcases List.mem_append.mp hmem with hmem | hmem
  · exact List.find?_eq_none.mp h.1 receipt hmem hsame
  · exact List.find?_eq_none.mp h.2 receipt hmem hsame

/-- A command of which a receipt is kept is not new. -/
theorem Kept.terminalReceipt_ne_none {x : String × Int} {n : Nat} {file : State} {c : Command}
    (h : Kept x n file.completedReceipts) (hc : c.identity = some x) :
    terminalReceipt file c ≠ none := by
  obtain ⟨receipt, hmem, hid⟩ := h.mem
  intro hnone
  refine ne_of_terminalReceipt_eq_none hnone ?_ (List.mem_append_right _ hmem) (hid.trans hc.symm)
  rw [Command.isJobV1, Option.isSome_iff_ne_none]
  intro hjob
  simp [Command.identity, hjob] at hc

/-- A process whose start-up save has failed starts nothing. -/
theorem Process.Valid.started_eq_nil {d : Device} {p : Process} (hv : p.Valid d.file)
    (hp : d.process = some p) (hsaved : p.startSaved = false) (s : Step) :
    started (d.actions s) = [] := by
  rcases d.actions_cases s with hnil | ⟨hnone, -⟩ |
    ⟨p', saveOk, event, rest, hp', -, -, hfull⟩
  · rw [hnil]
    rfl
  · rw [hnone] at hp
    exact absurd hp (by simp)
  · rw [hp, Option.some.injEq] at hp'
    subst hp'
    have hhandled := handled p.coordinator s.clock saveOk event
    rw [hfull] at hhandled
    generalize hactions : d.actions s ++ rest = actions at hhandled
    generalize (p.coordinator.handle s.clock saveOk event).1 = c' at hhandled
    cases hhandled with
    | quiet hstate hgate hdurable hharmless =>
      have hnone := started_of_harmless hharmless
      rw [← hactions, started_append] at hnone
      exact (List.append_eq_nil_iff.mp hnone).1
    | commit hcommit hrest =>
      rw [hcommit.startSaved hv] at hsaved
      exact Bool.noConfusion hsaved

/-! ### What a run records -/

/-- The receipts a step records. -/
def recordedBy (d : Device) (s : Step) : List Receipt :=
  (d.actions s).flatMap fun action =>
    match action with
    | .save _ _ recorded => recorded.toList
    | _ => []

/-- The receipts a run records. -/
def recordings : Device → List Step → List Receipt
  | _, [] => []
  | d, s :: steps => recordedBy d s ++ recordings (d.step s) steps

/-- Every save of the step, and the load before the save of a start-up, finds the receipts of `x`
at most seven days old. -/
def NotAged (x : String × Int) (d : Device) (s : Step) : Prop :=
  ∀ now state recorded, .save now state recorded ∈ d.actions s →
    Fresh x now (d.file.completedReceipts ++ recorded.toList) ∧
      ∀ load ∈ s.startClock?.map StartClock.load, Fresh x load d.file.completedReceipts

/-- The invariant under which receipts are counted. -/
structure Device.Sound (d : Device) : Prop where
  valid : d.Valid
  receipts : ReceiptsMatch d.file

section Run

variable {x : String × Int} {n : Nat} {d : Device} {s : Step} {steps : List Step}

/-- The file after a step, with the receipts the step records. -/
theorem Device.recorded_cases (d : Device) (s : Step) :
    ((d.step s).file = d.file ∧ recordedBy d s = []) ∨
    ∃ next recorded, .save s.clock (trim s.clock next) recorded ∈ d.actions s ∧
      recordedBy d s = recorded.toList ∧ (d.step s).file = trim s.clock next ∧
      d.Saves s next recorded := by
  rcases d.save_cases s with ⟨hfile, hnone⟩ | ⟨next, recorded, rest, hactions, hrest, hfile, hsaves⟩
  · refine .inl ⟨hfile, ?_⟩
    rw [recordedBy, List.flatMap_eq_nil_iff]
    intro action haction
    cases action with
    | save now state recorded => exact absurd haction (hnone now state recorded)
    | _ => rfl
  · refine .inr ⟨next, recorded, by simp [hactions], ?_, hfile, hsaves⟩
    have hnil : (rest.flatMap fun action =>
        match action with
        | .save _ _ recorded => recorded.toList
        | _ => []) = [] := by
      rw [List.flatMap_eq_nil_iff]
      intro action haction
      cases action with
      | save now state recorded => exact absurd haction (hrest now state recorded)
      | _ => rfl
    rw [recordedBy, hactions, List.flatMap_cons, hnil, List.append_nil]

/-- A device without a file. -/
theorem Device.Sound.initial : Device.Sound {} where
  valid := Device.Valid.initial
  receipts := by
    intro receipt hreceipt
    exact absurd hreceipt (by simp)

/-- A step keeps the invariant. -/
theorem Device.Sound.step (hd : d.Sound) (s : Step) : (d.step s).Sound where
  valid := hd.valid.step s
  receipts := by
    rcases d.recorded_cases s with ⟨hfile, -⟩ | ⟨next, recorded, -, -, hfile, hsaves⟩
    · rw [hfile]
      exact hd.receipts
    · rw [hfile]
      exact (hsaves.fileChange hd.valid).receiptsMatch hd.receipts

/-- And so does a run. -/
theorem Device.Sound.exec (hd : d.Sound) (steps : List Step) :
    (Run.exec Device.step d steps).Sound :=
  Run.exec_invariant (fun _ s hs => hs.step s) hd steps

/-- An execution is active until its receipt is recorded, or to the end of the run. -/
theorem Device.Sound.holding_or_recorded (hd : d.Sound) (hh : Holding x d.file)
    (steps : List Step) :
    Holding x (Run.exec Device.step d steps).file ∨
    ∃ before s after, steps = before ++ s :: after ∧
      ∃ receipt ∈ recordedBy (Run.exec Device.step d before) s,
        receipt.command.identity = some x := by
  induction steps generalizing d with
  | nil => exact .inl hh
  | cons s steps ih =>
    have hstep : Holding x (d.step s).file ∨
        ∃ receipt ∈ recordedBy d s, receipt.command.identity = some x := by
      rcases d.recorded_cases s with ⟨hfile, -⟩ |
        ⟨next, recorded, -, hrecorded, hfile, hsaves⟩
      · rw [hfile]
        exact .inl hh
      · rw [hfile, hrecorded]
        refine ((hsaves.fileChange hd.valid).holding hh).imp_right ?_
        rintro ⟨receipt, rfl, hid⟩
        exact ⟨receipt, by simp, hid⟩
    rcases hstep with hh' | hrecorded
    · rcases ih (hd.step s) hh' with hend | ⟨before, s', after, rfl, hrecorded⟩
      · exact .inl hend
      · exact .inr ⟨s :: before, s', after, rfl, hrecorded⟩
    · exact .inr ⟨[], s, steps, rfl, hrecorded⟩

/-- The receipt that a step records is the last one after it. -/
theorem Device.Sound.kept_of_recorded (hd : d.Sound) (haged : NotAged x d s) {receipt : Receipt}
    (hmem : receipt ∈ recordedBy d s) (hid : receipt.command.identity = some x) :
    Kept x 0 (d.step s).file.completedReceipts := by
  rcases d.recorded_cases s with ⟨-, hnil⟩ |
    ⟨next, recorded, hsave, hrecorded, hfile, hsaves⟩
  · rw [hnil] at hmem
    exact absurd hmem (by simp)
  · rw [hrecorded] at hmem
    rw [hfile]
    refine ((hsaves.fileChange hd.valid).kept_recorded (by simpa using hmem) hid).trim
      (by simp [maxReceipts]) ?_
    intro receipt' hreceipt'
    exact (haged s.clock _ recorded hsave).1 receipt'
      ((hsaves.fileChange hd.valid).mem_completed hreceipt')

/-- **Each recording puts at most one receipt behind the others.** -/
theorem Device.Sound.kept_exec (hd : d.Sound) (hk : Kept x n d.file.completedReceipts)
    (haged : Run.Along Device.step (NotAged x) d steps)
    (hn : n + (recordings d steps).length < maxReceipts) :
    Kept x (n + (recordings d steps).length)
      (Run.exec Device.step d steps).file.completedReceipts := by
  induction steps generalizing d n with
  | nil => exact hk
  | cons s steps ih =>
    rw [recordings, List.length_append, ← Nat.add_assoc] at hn ⊢
    have hstep : Kept x (n + (recordedBy d s).length) (d.step s).file.completedReceipts := by
      rcases d.recorded_cases s with ⟨hfile, hnil⟩ |
        ⟨next, recorded, hsave, hrecorded, hfile, hsaves⟩
      · rw [hfile, hnil]
        exact hk
      · rw [hfile, hrecorded]
        refine (hsaves.fileChange hd.valid).kept hd.receipts hk
          (haged.1 s.clock _ recorded hsave).1 (haged.1 s.clock _ recorded hsave).2 ?_
        rw [← hrecorded]
        omega
    exact ih (hd.step s) hstep haged.2 hn

end Run

/-! ### The client executes a command at most once -/

/-- What the saved file, the gate and the worker of a process have to do with each other. A process
whose start-up save has failed knows nothing of the file, and starts nothing. -/
structure Process.InStep (d : Device) (p : Process) : Prop where
  single : p.executions.length ≤ 1
  gate : p.coordinator.gate = p.coordinator.state.active.map Active.command
  memory : p.startSaved = true → p.coordinator.state = d.file
  unsaved : p.startSaved = false → p.coordinator.state = {} ∧
    p.coordinator.durabilityAvailable = false ∧ p.executions = [] ∧
    ∀ s, started (d.actions s) = []

/-- The invariant, as the theorem below states it. -/
theorem Process.Valid.inStep {d : Device} {p : Process} (hp : d.process = some p)
    (hv : p.Valid d.file) : p.InStep d where
  single := hv.single
  gate := hv.gate
  memory := hv.memory
  unsaved := by
    intro hsaved
    obtain ⟨hstate, hdurable⟩ := hv.unsaved hsaved
    refine ⟨hstate, hdurable, ?_, hv.started_eq_nil hp hsaved⟩
    rw [List.eq_nil_iff_forall_not_mem]
    intro c hc
    have hgate := hv.executions c hc
    rw [hv.gate, hstate] at hgate
    exact absurd hgate (by simp)

/-- Between two starts of the same identity a receipt of the first one is recorded and lost again:
by its age, or behind 256 later receipts. -/
theorem Device.Sound.recorded_between_starts {d : Device} (hd : d.Sound) {s₁ s₂ : Step}
    {middle : List Step} {c₁ c₂ : Command} {x : String × Int} (hc₁ : c₁.identity = some x)
    (hc₂ : c₂.identity = some x) (h₁ : c₁ ∈ started (d.actions s₁))
    (h₂ : c₂ ∈ started ((Run.exec Device.step (d.step s₁) middle).actions s₂)) :
    ∃ before s after, middle = before ++ s :: after ∧
      (∃ receipt ∈ recordedBy (Run.exec Device.step (d.step s₁) before) s,
        receipt.command.identity = some x) ∧
      (256 ≤ (recordings (Run.exec Device.step (d.step s₁) (before ++ [s])) after).length ∨
        ¬ Run.Along Device.step (NotAged x) (Run.exec Device.step (d.step s₁) before)
          (s :: after)) := by
  obtain ⟨-, -, hactive, -⟩ := hd.valid.started_spec s₁ h₁
  have hd₁ := hd.step s₁
  obtain ⟨hidle, hnew, -, -⟩ := (hd₁.exec middle).valid.started_spec s₂ h₂
  -- the first execution is over when the second starts
  rcases hd₁.holding_or_recorded ⟨_, hactive, hc₁⟩ middle with ⟨active, hactive', -⟩ |
    ⟨before, s, after, rfl, receipt, hmem, hid⟩
  · rw [hidle] at hactive'
    exact absurd hactive' (by simp)
  · refine ⟨before, s, after, rfl, ⟨receipt, hmem, hid⟩, ?_⟩
    by_contra hnot
    rw [not_or, not_le, not_not] at hnot
    obtain ⟨hfew, haged⟩ := hnot
    -- so its receipt is still there, and the command is not new
    have hbefore := hd₁.exec before
    have hkept := hbefore.kept_of_recorded haged.1 hmem hid
    rw [Run.exec_append, Run.exec_cons, Run.exec_nil] at hfew
    have hend := (hbefore.step s).kept_exec hkept haged.2
      (by rw [Nat.zero_add]; simpa [maxReceipts] using hfew)
    rw [Run.exec_append, Run.exec_cons] at hnew
    exact hend.terminalReceipt_ne_none hc₂ hnew

/-- **At most one execution.** In every run of the device, over restarts, failed saves and kills at
any point: the process keeps file, memory, gate and worker in step; nothing is announced that is
not saved; a step starts at most one worker; and an identity is started again only after a receipt
of it was recorded and lost, by its age or behind 256 receipts recorded later. -/
theorem worker_started_at_most_once (steps : List Step) :
    (∀ p, (Run.exec Device.step {} steps).process = some p →
      p.InStep (Run.exec Device.step {} steps)) ∧
    (∀ s file message, (file, .send message) ∈ (Run.exec Device.step {} steps).trace s →
      Announced file message) ∧
    (∀ s, (started ((Run.exec Device.step {} steps).actions s)).length ≤ 1) ∧
    ∀ s₁ middle s₂ c₁ c₂ x, c₁.identity = some x → c₂.identity = some x →
      c₁ ∈ started ((Run.exec Device.step {} steps).actions s₁) →
      c₂ ∈ started ((Run.exec Device.step {} (steps ++ s₁ :: middle)).actions s₂) →
      ∃ before s after, middle = before ++ s :: after ∧
        (∃ receipt ∈ recordedBy (Run.exec Device.step {} (steps ++ s₁ :: before)) s,
          receipt.command.identity = some x) ∧
        (256 ≤ (recordings (Run.exec Device.step {} (steps ++ s₁ :: before ++ [s])) after).length ∨
          ¬ Run.Along Device.step (NotAged x) (Run.exec Device.step {} (steps ++ s₁ :: before))
            (s :: after)) := by
  have hd := Device.Sound.initial.exec steps
  refine ⟨fun p hp => (hd.valid p hp).inStep hp, fun s file message => hd.valid.announced s, ?_, ?_⟩
  · intro s
    rcases hstarted : started ((Run.exec Device.step {} steps).actions s) with _ | ⟨c, rest⟩
    · exact Nat.zero_le 1
    · have hspec := hd.valid.started_spec s (c := c) (by rw [hstarted]; exact List.mem_cons_self)
      rw [← hstarted, hspec.2.2.2]
      exact le_rfl
  · intro s₁ middle s₂ c₁ c₂ x hc₁ hc₂ h₁ h₂
    simp only [Run.exec_append, Run.exec_cons, Run.exec_nil] at h₁ h₂ ⊢
    simpa only [Run.exec_append, Run.exec_cons, Run.exec_nil] using
      hd.recorded_between_starts hc₁ hc₂ h₁ h₂

/-- The command of the runs below. -/
def sampleCommand : Command where
  jobId := some "11111111-1111-4111-8111-111111111111"
  attempt := 1
  artifactId := none
  artifactUrl := "/artifact"
  artifactSize := none
  artifactSha256 := none
  bundleFilename := "bundle.zip"
  destPath := "files"
  deleteExtras := false

/-- A device that accepts a command and is killed while its worker runs. When the save of the next
start-up fails, the memory of the process is empty and the file has the active execution. -/
theorem memory_differs_after_failed_start :
    ∃ p, (Run.exec Device.step {}
        [.start ⟨0, 0, 0⟩ true, .event 1 true (.command sampleCommand), .kill,
          .start ⟨2, 2, 2⟩ false]).process = some p ∧
      p.coordinator.state ≠ (Run.exec Device.step {}
        [.start ⟨0, 0, 0⟩ true, .event 1 true (.command sampleCommand), .kill,
          .start ⟨2, 2, 2⟩ false]).file := by
  refine ⟨{ coordinator := {}, startSaved := false }, ?_, ?_⟩ <;> decide +kernel

end StylyMdm.Client
