import StylyMdm.Client.Coordinator

/-!
# What the coordinator can do

One lemma says everything an event can do to the coordinator: nothing durable, or one of four
commits, each a save followed by messages that the saved state bears out. The invariants of the
client are proved from these cases.

* `Announced` says of a message what the saved state has to contain for it: an acceptance needs the
  active command, a phase its phase, a result its receipt.
* `Harmless` is an action that saves nothing and starts nothing: a message that the state bears out
  already, or the cleanup of a work directory.
* `Commit` lists the four saves: a command is accepted, a phase is entered, a terminal result is
  recorded, an acknowledgement is taken in. Each comes with the condition under which it happens and
  with what follows it when the save goes well.

`handled` is proved handler by handler. No later module unfolds a handler: those that speak of the
file use the commits, those that speak of messages use `Announced`.
-/

namespace StylyMdm.Client

/-! ### Trimming keeps what is at the end -/

section TakeLast

variable {α : Type*} {l : List α} {n : Nat}

/-- A cut adds nothing. -/
theorem mem_of_mem_takeLast {a : α} (h : a ∈ takeLast n l) : a ∈ l := by
  rw [takeLast] at h
  exact List.mem_of_mem_drop h

/-- What has fewer than `n` elements behind it survives. -/
theorem takeLast_append_cons {pre post : List α} {a : α} (h : post.length < n) :
    takeLast n (pre ++ a :: post) = takeLast (n - post.length - 1) pre ++ a :: post := by
  rw [takeLast, takeLast, List.drop_append_of_le_length]
  · congr 2
    simp only [List.length_append, List.length_cons]
    omega
  · simp only [List.length_append, List.length_cons]
    omega

/-- The last entry stays. -/
theorem mem_takeLast_append_singleton {a : α} (hn : 0 < n) : a ∈ takeLast n (l ++ [a]) := by
  rw [takeLast_append_cons (by simpa using hn)]
  simp

end TakeLast

/-- A trim keeps the active execution. -/
@[simp] theorem trim_active (now : Int) (state : State) :
    (trim now state).active = state.active := by
  rw [trim, normalizePushState]

/-- It cuts the outbox. -/
theorem trim_pendingResults (now : Int) (state : State) :
    (trim now state).pendingResults = takeLast maxReceipts state.pendingResults := by
  rw [trim, normalizePushState]

/-- And drops the completed receipts that are old before it cuts them. -/
theorem trim_completedReceipts (now : Int) (state : State) :
    (trim now state).completedReceipts =
      takeLast maxReceipts
        (state.completedReceipts.filter (keptAt (now - receiptRetentionMs))) := by
  rw [trim, normalizePushState]

/-! ### Messages that the saved state bears out -/

/-- The state contains what the message announces: the acceptance with its phase, the phase, or the
result. The other messages, and results without a job, announce nothing. -/
def Announced (state : State) : Message → Prop
  | .accepted jobId attempt phase | .phase jobId attempt phase =>
    ∃ active, state.active = some active ∧ active.command.jobId = jobId ∧
      active.command.attempt = attempt ∧ active.phase = phase
  | .result result => result.jobId ≠ none →
    ∃ receipt ∈ state.pendingResults ++ state.completedReceipts, receipt.result = result
  | _ => True

/-- What the empty state bears out announces nothing. -/
theorem Announced.of_empty {state : State} {message : Message} (h : Announced {} message) :
    Announced state message := by
  cases message with
  | accepted jobId attempt phase =>
    obtain ⟨active, hactive, -⟩ := h
    exact absurd hactive (by simp)
  | phase jobId attempt phase =>
    obtain ⟨active, hactive, -⟩ := h
    exact absurd hactive (by simp)
  | result result =>
    intro hjob
    obtain ⟨receipt, hreceipt, -⟩ := h hjob
    exact absurd hreceipt (by simp)
  | _ => trivial

/-- An action that changes nothing durable and sends only what the state bears out. -/
def Harmless (state : State) (action : Action) : Prop :=
  (∃ message, action = .send message ∧ Announced state message) ∨
    ∃ command, action = .cleanup command

section Send

variable {c : Coordinator} {state : State} {message : Message} {action : Action}

/-- Sending what is announced is harmless. -/
theorem harmless_of_send (haction : action ∈ c.send message) (h : Announced state message) :
    Harmless state action := by
  rw [Coordinator.send] at haction
  split at haction
  · rw [List.mem_singleton] at haction
    exact .inl ⟨message, haction, h⟩
  · exact absurd haction (by simp)

end Send

/-! ### Commits -/

/-- The changes of the durable state, each with the event it belongs to, the receipt it records,
the gate it leaves and the worker it starts. -/
inductive Commit (c : Coordinator) : Event → State → Option Receipt → Option Command →
    Option Command → Prop
  | accept {command : Command} (hnew : terminalReceipt c.state command = none)
      (hdurable : c.durabilityAvailable = true) (hgate : c.gate = none) :
    Commit c (.command command) { c.state with active := some ⟨command, .downloading⟩ } none
      (some command) (some command)
  | phase {event : Event} {active : Active} {phase : Phase}
      (hactive : c.state.active = some active)
      (hevent : event.callbackOf.any fun command => active.command.identity = command.identity)
      (hother : ∀ command outcome completedAt, event ≠ .terminal command outcome completedAt) :
    Commit c event { c.state with active := some { active with phase } } none c.gate none
  | terminal {command : Command} {outcome : Outcome} {completedAt : Int}
      (hcurrent : c.isCurrent command) :
    Commit c (.terminal command outcome completedAt)
      { active := none
        pendingResults :=
          if command.isJobV1 then
            c.state.pendingResults ++ [⟨command, outcome.result command completedAt⟩]
          else c.state.pendingResults
        completedReceipts := takeLast maxReceipts
          (c.state.completedReceipts ++ [⟨command, outcome.result command completedAt⟩]) }
      (some ⟨command, outcome.result command completedAt⟩) (release c.gate command) none
  | ack {ack : ResultAck} {settled : Receipt} {next : State}
      (happly : applyPushResultAckToState c.state ack maxReceipts = some (settled, next)) :
    Commit c (.resultAck ack) next (some settled) c.gate none

/-- **What an event can do.** -/
inductive Handled (c : Coordinator) (now : Int) : Event → Coordinator → List Action → Prop
  | quiet {event : Event} {c' : Coordinator} {actions : List Action}
      (hstate : c'.state = c.state) (hgate : c'.gate = c.gate)
      (hdurable : c'.durabilityAvailable = true → c.durabilityAvailable = true)
      (hactions : ∀ action ∈ actions, Harmless c.state action) :
    Handled c now event c' actions
  | commit {event : Event} {next : State} {recorded : Option Receipt} {gate worker : Option Command}
      {rest : List Action} (hcommit : Commit c event next recorded gate worker)
      (hrest : ∀ action ∈ rest, Harmless (trim now next) action) :
    Handled c now event { c with state := trim now next, gate, durabilityAvailable := true }
      (.save now (trim now next) recorded :: (rest ++ worker.toList.map .startWorker))

section Handle

variable {c : Coordinator} {now : Int} {saveOk : Bool}

/-- An event that only sends changes nothing. -/
theorem Handled.of_sends {event : Event} {actions : List Action}
    (h : ∀ action ∈ actions, Harmless c.state action) : Handled c now event c actions :=
  .quiet rfl rfl id h

/-- A commit that starts no worker. -/
theorem Handled.of_save {event : Event} {next : State} {recorded : Option Receipt}
    {gate : Option Command} {rest : List Action} (hcommit : Commit c event next recorded gate none)
    (hrest : ∀ action ∈ rest, Harmless (trim now next) action) :
    Handled c now event { c with state := trim now next, gate, durabilityAvailable := true }
      (.save now (trim now next) recorded :: rest) := by
  have h := Handled.commit hcommit hrest
  rwa [Option.toList_none, List.map_nil, List.append_nil] at h

/-- A rejected command announces nothing. -/
private theorem harmless_rejectPersistenceUnavailable {state : State} {command : Command}
    {action : Action} (h : action ∈ c.rejectPersistenceUnavailable command) :
    Harmless state action := by
  rw [Coordinator.rejectPersistenceUnavailable] at h
  split at h
  · exact harmless_of_send h trivial
  · exact harmless_of_send h fun hjob => absurd rfl hjob

/-- A conflict is answered without a save. -/
private theorem harmless_rejectConflict {state : State} {command : Command} {detail : String}
    {action : Action} (h : action ∈ c.rejectConflict command detail) : Harmless state action := by
  rw [Coordinator.rejectConflict] at h
  split at h
  · exact harmless_of_send h trivial
  · exact absurd h (by simp)

/-- And so is a busy gate. -/
private theorem harmless_rejectBusy {state : State} {command active : Command} {action : Action}
    (h : action ∈ c.rejectBusy command active) : Harmless state action := by
  rw [Coordinator.rejectBusy] at h
  split at h
  · exact harmless_of_send h trivial
  · exact harmless_of_send h fun hjob => absurd rfl hjob

/-- Two jobs have one identity when job id and attempt agree. -/
theorem identity_eq_iff {command other : Command} (h : command.isJobV1) :
    command.identity = other.identity ↔
      command.jobId = other.jobId ∧ command.attempt = other.attempt := by
  rw [Command.isJobV1, Option.isSome_iff_exists] at h
  obtain ⟨jobId, hjobId⟩ := h
  rcases hother : other.jobId with _ | jobId' <;>
    simp [Command.identity, hjobId, hother]

/-- A duplicate is answered with the phase that is saved. -/
private theorem harmless_handleDuplicate {command : Command} {action : Action}
    (h : action ∈ c.handleDuplicate command) : Harmless c.state action := by
  unfold Coordinator.handleDuplicate at h
  split at h
  · exact absurd h (by simp)
  · rename_i active hactive
    split at h
    · rename_i hsame
      obtain ⟨hjob, hattempt⟩ := (identity_eq_iff hsame.2).mp hsame.1.symm
      exact harmless_of_send h ⟨active, hactive, hjob.symm, hattempt.symm, rfl⟩
    · exact absurd h (by simp)

/-- The result of a receipt of the state may be sent. -/
theorem announced_result {state : State} {receipt : Receipt}
    (h : receipt ∈ state.pendingResults ++ state.completedReceipts) :
    Announced state (.result receipt.result) := fun _ => ⟨receipt, h, rfl⟩

/-- The receipt of a command is in the outbox or completed. -/
theorem mem_of_terminalReceipt {state : State} {command : Command} {receipt : Receipt}
    (h : terminalReceipt state command = some receipt) :
    receipt ∈ state.pendingResults ++ state.completedReceipts := by
  rw [terminalReceipt, Option.or_eq_some_iff] at h
  rcases h with h | ⟨-, h⟩
  · exact List.mem_append_left _ (List.mem_of_find?_eq_some h)
  · exact List.mem_append_right _ (List.mem_of_find?_eq_some h)

/-- The gate accepts only when it is free. -/
theorem offer_eq_accepted {active : Option Command} {command : Command}
    (h : offer active command = .accepted) : active = none := by
  rcases active with _ | current
  · rfl
  · simp only [offer] at h
    split at h
    · exact absurd h (by simp)
    · split at h
      · split at h <;> exact absurd h (by simp)
      · exact absurd h (by simp)

/-- The gate is released by the command it holds, whatever its payload. -/
theorem release_self {active : Command} {command : Command}
    (h : active.identity = command.identity) : release (some active) command = none := by
  simp [release, h]

/-- An acceptance saves first, and then announces and starts the worker. -/
private theorem handled_accept {command : Command}
    (hnew : terminalReceipt c.state command = none) (hdurable : c.durabilityAvailable = true)
    (hgate : c.gate = none) :
    Handled c now (.command command) ({ c with gate := some command }.accept now saveOk command).1
      ({ c with gate := some command }.accept now saveOk command).2 := by
  cases saveOk with
  | true =>
    have hrest : ∀ action ∈ (if command.isJobV1 then
        ({ c with gate := some command }.persist now true
          { c.state with active := some ⟨command, .downloading⟩ }).send
          (.accepted command.jobId command.attempt .downloading) else []),
        Harmless (trim now { c.state with active := some ⟨command, .downloading⟩ }) action := by
      intro action haction
      split at haction
      · exact harmless_of_send haction ⟨⟨command, .downloading⟩, by simp, rfl, rfl, rfl⟩
      · exact absurd haction (by simp)
    exact .commit (.accept hnew hdurable hgate) hrest
  | false =>
    refine .quiet rfl ?_ (fun h => Bool.noConfusion h) fun action haction =>
      harmless_rejectPersistenceUnavailable haction
    change release (some command) command = c.gate
    rw [release_self rfl, hgate]

/-- A command. -/
private theorem handled_command {command : Command} :
    Handled c now (.command command) (c.handleCommand now saveOk command).1
      (c.handleCommand now saveOk command).2 := by
  unfold Coordinator.handleCommand
  split
  · rename_i terminal hterminal
    split
    · exact .of_sends fun action haction =>
        harmless_of_send haction (announced_result (mem_of_terminalReceipt hterminal))
    · exact .of_sends fun action haction => harmless_rejectConflict haction
  · rename_i hnew
    split
    · exact .of_sends fun action haction => harmless_rejectPersistenceUnavailable haction
    · rename_i hdurable
      split
      · rename_i haccepted
        exact handled_accept hnew (by simpa using hdurable) (offer_eq_accepted haccepted)
      · exact .of_sends fun action haction => harmless_handleDuplicate haction
      · exact .of_sends fun action haction => harmless_rejectBusy haction
      · exact .of_sends fun action haction => harmless_rejectConflict haction

/-- `setPhase` saves the new phase of the current execution, or nothing. -/
private theorem setPhase_cases (c : Coordinator) (now : Int) (saveOk : Bool) (command : Command)
    (phase : Phase) :
    (∃ active, c.state.active = some active ∧ active.command.identity = command.identity ∧
      c.setPhase now saveOk command phase =
        ({ c with state := trim now { c.state with active := some { active with phase } },
                  durabilityAvailable := true },
          some (.save now (trim now { c.state with active := some { active with phase } }) none))) ∨
    ((c.setPhase now saveOk command phase).2 = none ∧
      (c.setPhase now saveOk command phase).1.state = c.state ∧
      (c.setPhase now saveOk command phase).1.gate = c.gate ∧
      ((c.setPhase now saveOk command phase).1.durabilityAvailable = true →
        c.durabilityAvailable = true)) := by
  unfold Coordinator.setPhase
  split
  · exact .inr ⟨rfl, rfl, rfl, id⟩
  · rename_i active hactive
    split
    · exact .inr ⟨rfl, rfl, rfl, id⟩
    · rename_i hsame
      cases saveOk with
      | true => exact .inl ⟨active, hactive, not_not.mp hsame, rfl⟩
      | false => exact .inr ⟨rfl, rfl, rfl, fun h => Bool.noConfusion h⟩

/-- The end of the transfer. -/
private theorem handled_transferComplete {command : Command} {received : Int} :
    Handled c now (.transferComplete command received)
      (c.onTransferComplete now saveOk command received).1
      (c.onTransferComplete now saveOk command received).2 := by
  unfold Coordinator.onTransferComplete
  rcases setPhase_cases c now saveOk command .validating with
    ⟨active, hactive, hsame, hset⟩ | ⟨hnone, hstate, hgate, hdurable⟩
  · rw [hset]
    refine .of_save (.phase hactive (by simpa [Event.callbackOf] using hsame) (by simp))
      fun action haction => harmless_of_send haction ?_
    split <;> trivial
  · split
    · rename_i h
      rw [h] at hstate hgate hdurable
      exact .quiet hstate hgate hdurable (by simp)
    · rename_i h
      rw [h] at hnone
      exact absurd hnone (by simp)

/-- The start of the application. -/
private theorem handled_applying {command : Command} :
    Handled c now (.applying command) (c.onApplying now saveOk command).1
      (c.onApplying now saveOk command).2 := by
  unfold Coordinator.onApplying
  rcases setPhase_cases c now saveOk command .applying with
    ⟨active, hactive, hsame, hset⟩ | ⟨hnone, hstate, hgate, hdurable⟩
  · rw [hset]
    refine .of_save (.phase hactive (by simpa [Event.callbackOf] using hsame) (by simp))
      fun action haction => ?_
    split at haction
    · rename_i hjob
      obtain ⟨hid, hattempt⟩ := (identity_eq_iff hjob).mp hsame.symm
      exact harmless_of_send haction ⟨{ active with phase := .applying }, by simp, hid.symm,
        hattempt.symm, rfl⟩
    · exact absurd haction (by simp)
  · split
    · rename_i h
      rw [h] at hstate hgate hdurable
      exact .quiet hstate hgate hdurable (by simp)
    · rename_i h
      rw [h] at hnone
      exact absurd hnone (by simp)

/-- The end of the validation, which saves nothing. -/
private theorem handled_validated {command : Command} :
    Handled c now (.validated command) c (c.onValidated command) := by
  refine .of_sends fun action haction => ?_
  unfold Coordinator.onValidated at haction
  split at haction
  · exact absurd haction (by simp)
  · split at haction
    · exact harmless_of_send haction trivial
    · exact absurd haction (by simp)

/-- The end of the worker. -/
private theorem handled_terminal {command : Command} {outcome : Outcome} {completedAt : Int} :
    Handled c now (.terminal command outcome completedAt)
      (c.onTerminal now saveOk command (outcome.result command completedAt)).1
      (c.onTerminal now saveOk command (outcome.result command completedAt)).2 := by
  unfold Coordinator.onTerminal
  split
  · exact .of_sends fun action haction => .inr ⟨command, by simpa using haction⟩
  · rename_i hcurrent
    cases saveOk with
    | true =>
      refine .of_save (.terminal (by simpa using hcurrent)) fun action haction => ?_
      rcases List.mem_cons.mp haction with rfl | haction
      · exact .inr ⟨command, rfl⟩
      · refine harmless_of_send haction fun hjob => ?_
        -- the result of a job is the newest pending one
        have hv1 : command.isJobV1 := by
          rw [Command.isJobV1, Option.isSome_iff_ne_none]
          intro hnone
          refine hjob ?_
          cases outcome <;> exact hnone
        refine ⟨⟨command, outcome.result command completedAt⟩, List.mem_append_left _ ?_, rfl⟩
        rw [trim_pendingResults, if_pos hv1]
        exact mem_takeLast_append_singleton (by simp [maxReceipts])
    | false => exact .quiet rfl rfl (fun h => Bool.noConfusion h) (by simp)

/-- An acknowledgement. -/
private theorem handled_resultAck {ack : ResultAck} :
    Handled c now (.resultAck ack) (c.handleResultAck now saveOk ack).1
      (c.handleResultAck now saveOk ack).2 := by
  unfold Coordinator.handleResultAck
  split
  · exact .of_sends (by simp)
  · rename_i settled next happly
    cases saveOk with
    | true => exact .of_save (.ack happly) (by simp)
    | false => exact .quiet rfl rfl (fun h => Bool.noConfusion h) (by simp)

/-- The answer to a reconcile request tells what is saved. -/
theorem announced_reconcileAnswer (state : State) (identity : ReconcileIdentity) :
    Announced state (Coordinator.reconcileAnswer state identity) := by
  unfold Coordinator.reconcileAnswer
  split
  · trivial
  · split
    · rename_i settled hsettled
      rw [findPushReconcileReceipt, Option.or_eq_some_iff] at hsettled
      refine announced_result ?_
      rcases hsettled with h | ⟨-, h⟩
      · exact List.mem_append_left _ (List.mem_of_find?_eq_some h)
      · exact List.mem_append_right _ (List.mem_of_find?_eq_some h)
    · trivial

/-- Every event is handled in one of the listed ways. -/
theorem handled (c : Coordinator) (now : Int) (saveOk : Bool) (event : Event) :
    Handled c now event (c.handle now saveOk event).1 (c.handle now saveOk event).2 := by
  cases event with
  | command command => exact handled_command
  | malformedCommand payload =>
    refine .of_sends fun action haction => ?_
    simp only [Coordinator.handle, Coordinator.rejectMalformed] at haction
    split at haction
    · exact absurd haction (by simp)
    · exact harmless_of_send haction trivial
  | resultAck ack => exact handled_resultAck
  | reconcileRequest jobs =>
    refine .of_sends fun action haction => ?_
    obtain ⟨identity, -, haction⟩ := List.mem_flatMap.mp haction
    exact harmless_of_send haction (announced_reconcileAnswer _ _)
  | attachTransport token => exact .quiet rfl rfl id (by simp [Coordinator.handle])
  | detachTransport token =>
    simp only [Coordinator.handle]
    split <;> exact .quiet rfl rfl id (by simp)
  | registered token =>
    simp only [Coordinator.handle]
    split
    · refine .of_sends fun action haction => ?_
      obtain ⟨receipt, hreceipt, haction⟩ := List.mem_flatMap.mp haction
      exact harmless_of_send haction (announced_result (List.mem_append_left _ hreceipt))
    · exact .of_sends (by simp)
  | transferComplete command received => exact handled_transferComplete
  | validated command => exact handled_validated
  | applying command => exact handled_applying
  | terminal command outcome completedAt => exact handled_terminal

end Handle

end StylyMdm.Client
