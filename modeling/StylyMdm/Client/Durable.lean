import StylyMdm.Library.Run
import StylyMdm.Client.Handled

/-!
# Memory, gate and file

The invariant of a running process: once its start-up save has succeeded, the state in memory is
the saved one; the gate holds the command of the active execution; and the executions the worker
has not finished are at most this one. A process whose start-up save has failed keeps the empty
state it was constructed with, and does nothing until it is killed.

`Process.Valid` is this invariant for a process and the file, `Device.Valid` for a device whose
process may be gone. A kill needs no proof: the file is what the performed part of a handler has
made of it, and the memory is lost. That a message is only sent when the file bears it out
(`Device.Valid.announced`) follows from the order of the actions in `Commit`: the save comes first,
and after a failed save nothing is sent of what it would have announced.

`Device.actions_cases` splits the actions of a step into those of a start and those of an event,
and is what the modules on executions and on results start from.
-/

namespace StylyMdm.Client

/-! ### The file along a list of actions -/

section File

variable {file : State} {actions actions' : List Action}

/-- The file after two lists of actions. -/
theorem fileAfter_append :
    fileAfter file (actions ++ actions') = fileAfter (fileAfter file actions) actions' := by
  induction actions generalizing file with
  | nil => rfl
  | cons action actions ih => cases action <;> exact ih

/-- Without a save the file stays. -/
theorem fileAfter_eq_self (h : ∀ action ∈ actions, ∀ now state recorded,
    action ≠ .save now state recorded) : fileAfter file actions = file := by
  induction actions generalizing file with
  | nil => rfl
  | cons action actions ih =>
    have hrest : fileAfter file actions = file :=
      ih fun action' hmem => h action' (List.mem_cons_of_mem _ hmem)
    cases action with
    | save now state recorded => exact absurd rfl (h _ List.mem_cons_self now state recorded)
    | _ => exact hrest

/-- Every performed action, with the file left by those before it. -/
theorem mem_performed {entry : State × Action} (h : entry ∈ performed file actions) :
    ∃ before after, actions = before ++ entry.2 :: after ∧ entry.1 = fileAfter file before := by
  induction actions generalizing file with
  | nil => exact absurd h (by simp [performed])
  | cons action actions ih =>
    rw [performed, List.mem_cons] at h
    rcases h with rfl | h
    · exact ⟨[], actions, rfl, rfl⟩
    · obtain ⟨before, after, rfl, heq⟩ := ih h
      refine ⟨action :: before, after, rfl, ?_⟩
      rw [heq, ← fileAfter_append]
      rfl

/-- A harmless action saves nothing. -/
theorem Harmless.ne_save {state : State} {action : Action} (h : Harmless state action)
    (now : Int) (state' : State) (recorded : Option Receipt) :
    action ≠ .save now state' recorded := by
  rcases h with ⟨message, rfl, -⟩ | ⟨command, rfl⟩ <;> simp

end File

/-! ### The invariant -/

/-- The invariant of a process. -/
structure Process.Valid (file : State) (p : Process) : Prop where
  memory : p.startSaved = true → p.coordinator.state = file
  unsaved : p.startSaved = false →
    p.coordinator.state = {} ∧ p.coordinator.durabilityAvailable = false
  gate : p.coordinator.gate = p.coordinator.state.active.map Active.command
  executions : ∀ c ∈ p.executions, p.coordinator.gate = some c
  single : p.executions.length ≤ 1

/-- The invariant of a device. -/
def Device.Valid (d : Device) : Prop := ∀ p, d.process = some p → p.Valid d.file

/-- A device without a process. -/
theorem Device.Valid.initial : Device.Valid {} := fun _ h => absurd h (by simp)

section Step

variable {c : Coordinator} {now : Int} {event : Event} {next : State} {recorded : Option Receipt}
  {gate worker : Option Command} {p : Process} {file : State}

/-- No commit of a process whose start-up save has failed. -/
theorem Commit.startSaved (h : Commit p.coordinator event next recorded gate worker)
    (hp : p.Valid file) : p.startSaved = true := by
  by_contra hsaved
  obtain ⟨hstate, hdurable⟩ := hp.unsaved (by simpa using hsaved)
  cases h with
  | accept hnew hd hgate =>
    rw [hdurable] at hd
    exact Bool.noConfusion hd
  | phase hactive hevent hother =>
    rw [hstate] at hactive
    exact absurd hactive (by simp)
  | terminal hcurrent =>
    rw [Coordinator.isCurrent, hstate] at hcurrent
    exact absurd hcurrent (by simp)
  | ack happly =>
    simp [hstate, applyPushResultAckToState] at happly

/-- A commit leaves the gate on the active command. -/
theorem Commit.gate_eq (h : Commit c event next recorded gate worker)
    (hgate : c.gate = c.state.active.map Active.command) :
    gate = next.active.map Active.command := by
  cases h with
  | accept hnew hd hfree => rfl
  | phase hactive hevent hother =>
    rw [hgate, hactive]
    rfl
  | terminal hcurrent =>
    rename_i command outcome completedAt
    rw [Coordinator.isCurrent, Option.any_eq_true] at hcurrent
    obtain ⟨active, hactive, hsame⟩ := hcurrent
    rw [hgate, hactive, Option.map_some, release_self (by simpa using hsame)]
    rfl
  | ack happly =>
    rename_i ack settled
    have hnext : next.active = c.state.active := by
      unfold applyPushResultAckToState at happly
      split at happly
      · exact absurd happly (by simp)
      · split at happly
        · exact absurd happly (by simp)
        · simp only [Option.some.injEq, Prod.mk.injEq] at happly
          rw [← happly.2]
    rw [hgate, hnext]

/-- Harmless actions start no worker. -/
theorem started_of_harmless {state : State} {actions : List Action}
    (h : ∀ action ∈ actions, Harmless state action) : started actions = [] := by
  rw [started, List.filterMap_eq_nil_iff]
  intro action haction
  rcases h action haction with ⟨message, rfl, -⟩ | ⟨command, rfl⟩ <;> rfl

/-- The executions after a commit. -/
theorem Commit.executionsAfter_eq {actions : List Action}
    (h : Commit p.coordinator event next recorded gate worker) (hp : p.Valid file)
    (henabled : Device.enabled p event) (hstarted : started actions = worker.toList) :
    (∀ c ∈ Device.executionsAfter p.executions event actions, gate = some c) ∧
      (Device.executionsAfter p.executions event actions).length ≤ 1 := by
  rw [Device.executionsAfter, hstarted]
  cases h with
  | accept hnew hd hfree =>
    rename_i command
    -- nothing is in progress while the gate is free
    have hnone : p.executions = [] := by
      refine List.eq_nil_iff_forall_not_mem.mpr fun c hc => ?_
      rw [hp.executions c hc] at hfree
      exact absurd hfree (by simp)
    simp [hnone, Device.remaining]
  | phase hactive hevent hother =>
    have hsame : Device.remaining p.executions event = p.executions := by
      cases event with
      | terminal command outcome completedAt => exact absurd rfl (hother _ _ _)
      | _ => rfl
    rw [hsame, Option.toList_none, List.append_nil]
    exact ⟨hp.executions, hp.single⟩
  | terminal hcurrent =>
    rename_i command outcome completedAt
    have hmem : command ∈ p.executions := by
      simpa [Device.enabled, Event.callbackOf] using henabled
    obtain ⟨other, hother⟩ : ∃ other, p.executions = [other] := by
      rcases hlist : p.executions with _ | ⟨other, rest⟩
      · rw [hlist] at hmem
        exact absurd hmem (by simp)
      · have hsingle := hp.single
        rw [hlist, List.length_cons] at hsingle
        rw [List.length_eq_zero_iff.mp (by omega : rest.length = 0)]
        exact ⟨other, rfl⟩
    rw [hother, List.mem_singleton] at hmem
    subst hmem
    simp [hother, Device.remaining]
  | ack happly =>
    rw [Option.toList_none, List.append_nil]
    exact ⟨hp.executions, hp.single⟩

end Step

/-! ### Start-up -/

/-- What the `init` block does: its save succeeds, or it does nothing. -/
theorem start_cases (clock : StartClock) (saveOk : Bool) (file : State) :
    (saveOk = true ∧
      ((Coordinator.start clock saveOk file).1).state =
        trim clock.save (recover clock.completedAt (trim clock.load file)).1 ∧
      ((Coordinator.start clock saveOk file).1).gate = none ∧
      ((Coordinator.start clock saveOk file).1).state.active = none ∧
      ∃ rest, (Coordinator.start clock saveOk file).2 =
        .save clock.save (trim clock.save (recover clock.completedAt (trim clock.load file)).1)
          (recover clock.completedAt (trim clock.load file)).2 :: rest ∧
        ∀ action ∈ rest, Harmless {} action) ∨
    (saveOk = false ∧ (Coordinator.start clock saveOk file).1 = {} ∧
      (Coordinator.start clock saveOk file).2 = []) := by
  have hactive : (recover clock.completedAt (trim clock.load file)).1.active = none := by
    unfold recover
    split
    · assumption
    · rfl
  cases saveOk with
  | true =>
    have hstate : ((Coordinator.start clock true file).1).state =
        trim clock.save (recover clock.completedAt (trim clock.load file)).1 := rfl
    have hnone : ((Coordinator.start clock true file).1).state.active = none := by
      rw [hstate, trim_active, hactive]
    refine .inl ⟨rfl, hstate, ?_, hnone, _, rfl, ?_⟩
    · change ((Coordinator.start clock true file).1).state.active.map Active.command = none
      rw [hnone]
      rfl
    · intro action haction
      obtain ⟨receipt, -, rfl⟩ := List.mem_map.mp haction
      exact .inr ⟨_, rfl⟩
  | false => exact .inr ⟨rfl, rfl, rfl⟩

/-! ### Steps of the device -/

section Device

variable {d : Device}

/-- An event keeps the invariant. -/
theorem Process.Valid.event {p : Process} {file : State} (hp : p.Valid file) (now : Int)
    (saveOk : Bool) {event : Event} (henabled : Device.enabled p event) :
    Process.Valid (fileAfter file (p.coordinator.handle now saveOk event).2)
      { p with
        coordinator := (p.coordinator.handle now saveOk event).1
        executions := Device.executionsAfter p.executions event
          (p.coordinator.handle now saveOk event).2 } := by
  have h := handled p.coordinator now saveOk event
  generalize (p.coordinator.handle now saveOk event).1 = c' at h ⊢
  generalize (p.coordinator.handle now saveOk event).2 = actions at h ⊢
  cases h with
  | quiet hstate hgate hdurable hactions =>
    have hfile : fileAfter file actions = file :=
      fileAfter_eq_self fun action haction => (hactions action haction).ne_save
    have hsub : Device.executionsAfter p.executions event actions ⊆ p.executions ∧
        (Device.executionsAfter p.executions event actions).length ≤ p.executions.length := by
      rw [Device.executionsAfter, started_of_harmless hactions, List.append_nil]
      cases event with
      | terminal command outcome completedAt =>
        exact ⟨List.erase_subset, List.length_erase_le⟩
      | _ => exact ⟨List.Subset.refl _, le_rfl⟩
    refine ⟨?_, ?_, ?_, ?_, hsub.2.trans hp.single⟩
    · intro hsaved
      rw [hfile]
      exact hstate.trans (hp.memory hsaved)
    · intro hsaved
      obtain ⟨hempty, hd⟩ := hp.unsaved hsaved
      refine ⟨hstate.trans hempty, ?_⟩
      by_contra htrue
      rw [hdurable (by simpa using htrue)] at hd
      exact Bool.noConfusion hd
    · change c'.gate = c'.state.active.map Active.command
      rw [hgate, hstate]
      exact hp.gate
    · intro c hc
      change c'.gate = some c
      rw [hgate]
      exact hp.executions c (hsub.1 hc)
  | commit hcommit hrest =>
    rename_i next recorded gate worker rest
    have hsaved := hcommit.startSaved hp
    have hstarted : started (.save now (trim now next) recorded ::
        (rest ++ worker.toList.map .startWorker)) = worker.toList := by
      have hzero := started_of_harmless hrest
      rw [started] at hzero ⊢
      rw [List.filterMap_cons_none rfl, List.filterMap_append, hzero, List.nil_append,
        List.filterMap_map]
      exact List.filterMap_some
    have hfile : fileAfter file (.save now (trim now next) recorded ::
        (rest ++ worker.toList.map .startWorker)) = trim now next := by
      change fileAfter (trim now next) (rest ++ worker.toList.map .startWorker) = _
      refine fileAfter_eq_self fun action haction => ?_
      rcases List.mem_append.mp haction with h | h
      · exact (hrest action h).ne_save
      · obtain ⟨command, -, rfl⟩ := List.mem_map.mp h
        simp
    obtain ⟨hexecutions, hsingle⟩ := hcommit.executionsAfter_eq hp henabled hstarted
    refine ⟨fun _ => hfile.symm, ?_, ?_, hexecutions, hsingle⟩
    · intro hfalse
      rw [hsaved] at hfalse
      exact Bool.noConfusion hfalse
    · change gate = (trim now next).active.map Active.command
      rw [trim_active]
      exact hcommit.gate_eq hp.gate

/-- A fresh process satisfies the invariant. -/
theorem Process.Valid.start (clock : StartClock) (saveOk : Bool) (file : State) :
    Process.Valid (fileAfter file (Coordinator.start clock saveOk file).2)
      { coordinator := (Coordinator.start clock saveOk file).1, startSaved := saveOk } := by
  rcases start_cases clock saveOk file with
    ⟨rfl, hstate, hgate, hactive, rest, hactions, hrest⟩ | ⟨rfl, hc, hactions⟩
  · have hfile : fileAfter file (Coordinator.start clock true file).2 =
        trim clock.save (recover clock.completedAt (trim clock.load file)).1 := by
      rw [hactions]
      exact fileAfter_eq_self fun action haction => (hrest action haction).ne_save
    refine ⟨fun _ => hstate.trans hfile.symm, fun h => Bool.noConfusion h, ?_, by simp, by simp⟩
    rw [hgate, hactive]
    rfl
  · refine ⟨fun h => Bool.noConfusion h, fun _ => ?_, ?_, by simp, by simp⟩
    · rw [hc]
      exact ⟨rfl, rfl⟩
    · rw [hc]
      rfl

/-- **Every step keeps the invariant.** -/
theorem Device.Valid.step (hd : d.Valid) (s : Step) : (d.step s).Valid := by
  intro p' hp'
  cases s with
  | kill => exact absurd hp' (by simp [Device.step, Device.processAfter])
  | killInStart count clock saveOk =>
    exact absurd hp' (by simp [Device.step, Device.processAfter])
  | killInEvent count now saveOk event =>
    exact absurd hp' (by simp [Device.step, Device.processAfter])
  | start clock saveOk =>
    rcases hp : d.process with _ | p
    · simp only [Device.step, Device.processAfter, Device.actions, hp, Option.some.injEq] at hp' ⊢
      subst hp'
      exact Process.Valid.start clock saveOk d.file
    · simp only [Device.step, Device.processAfter, Device.actions, hp, Option.some.injEq] at hp' ⊢
      subst hp'
      exact hd p hp
  | event now saveOk event =>
    rcases hp : d.process with _ | p
    · exact absurd hp' (by simp [Device.step, Device.processAfter, hp])
    · simp only [Device.step, Device.processAfter, Device.actions, hp, Option.map_some,
        Option.some.injEq] at hp' ⊢
      by_cases henabled : Device.enabled p event
      · rw [if_pos henabled] at hp' ⊢
        subst hp'
        exact (hd p hp).event now saveOk henabled
      · rw [if_neg henabled] at hp' ⊢
        subst hp'
        exact hd p hp

/-- The event a step brings to the actor. -/
def Step.event? : Step → Option Event
  | .event _ _ e | .killInEvent _ _ _ e => some e
  | _ => none

/-- What the clock reads in the start-up of a step. -/
def Step.startClock? : Step → Option StartClock
  | .start clock _ | .killInStart _ clock _ => some clock
  | _ => none

/-- What the clock reads at the save of a step; a kill does not read it. -/
def Step.clock : Step → Int
  | .start clock _ | .killInStart _ clock _ => clock.save
  | .event now _ _ | .killInEvent _ now _ _ => now
  | .kill => 0

/-- In a start-up the clock is read for the save last. -/
theorem Step.clock_eq_save {s : Step} {clock : StartClock} (h : s.startClock? = some clock) :
    s.clock = clock.save := by
  cases s with
  | start clock' saveOk | killInStart count clock' saveOk =>
    cases h
    rfl
  | _ => exact absurd h (by simp [Step.startClock?])

/-- The actions of a step are the first actions of a handler, or none. -/
theorem Device.actions_cases (d : Device) (s : Step) :
    d.actions s = [] ∨
    (d.process = none ∧ s.event? = none ∧ ∃ clock saveOk rest, s.startClock? = some clock ∧
      (Coordinator.start clock saveOk d.file).2 = d.actions s ++ rest) ∨
    ∃ p saveOk event rest, d.process = some p ∧ s.event? = some event ∧ Device.enabled p event ∧
      (p.coordinator.handle s.clock saveOk event).2 = d.actions s ++ rest := by
  rcases hp : d.process with _ | p
  · cases s with
    | start clock saveOk =>
      exact .inr (.inl ⟨rfl, rfl, clock, saveOk, [], rfl, by simp [Device.actions, hp]⟩)
    | killInStart count clock saveOk =>
      refine .inr (.inl ⟨rfl, rfl, clock, saveOk,
        (Coordinator.start clock saveOk d.file).2.drop count, rfl, ?_⟩)
      simp [Device.actions, hp]
    | _ => exact .inl (by simp [Device.actions, hp])
  · cases s with
    | event now saveOk event =>
      by_cases henabled : Device.enabled p event
      · exact .inr (.inr ⟨p, saveOk, event, [], rfl, rfl, henabled,
          by simp [Device.actions, Step.clock, hp, henabled]⟩)
      · exact .inl (by simp [Device.actions, hp, henabled])
    | killInEvent count now saveOk event =>
      by_cases henabled : Device.enabled p event
      · refine .inr (.inr ⟨p, saveOk, event,
          (p.coordinator.handle now saveOk event).2.drop count, rfl, rfl, henabled, ?_⟩)
        simp [Device.actions, Step.clock, hp, henabled]
      · exact .inl (by simp [Device.actions, hp, henabled])
    | _ => exact .inl (by simp [Device.actions, hp])

/-- **Nothing is announced that is not saved.** -/
theorem Device.Valid.announced (hd : d.Valid) (s : Step) {file : State} {message : Message}
    (h : (file, .send message) ∈ d.trace s) : Announced file message := by
  obtain ⟨before, after, hactions, rfl⟩ := mem_performed h
  simp only at hactions
  have hcases := d.actions_cases s
  generalize s.clock = now at hcases
  rcases hcases with hnil | ⟨-, -, clock, saveOk, rest, -, hfull⟩ |
    ⟨p, saveOk, event, rest, hp, -, -, hfull⟩
  · rw [hnil] at hactions
    exact absurd hactions.symm (by simp)
  · -- the start-up block sends nothing
    have hmem : .send message ∈ (Coordinator.start clock saveOk d.file).2 := by
      rw [hfull, hactions]
      simp
    rcases start_cases clock saveOk d.file with
      ⟨-, -, -, -, rest', hstart, hrest'⟩ | ⟨-, -, hstart⟩
    · rw [hstart, List.mem_cons] at hmem
      rcases hmem with hmem | hmem
      · exact absurd hmem (by simp)
      · rcases hrest' _ hmem with ⟨message', heq, hann⟩ | ⟨command, heq⟩
        · cases heq
          exact hann.of_empty
        · exact absurd heq (by simp)
    · rw [hstart] at hmem
      exact absurd hmem (by simp)
  · have hv := hd p hp
    have hhandled := handled p.coordinator now saveOk event
    rw [hfull, hactions, List.append_assoc, List.cons_append] at hhandled
    generalize hfullActions : before ++ .send message :: (after ++ rest) = actions at hhandled
    generalize (p.coordinator.handle now saveOk event).1 = c' at hhandled
    cases hhandled with
    | quiet hstate hgate hdurable hharmless =>
      subst hfullActions
      have hfile : fileAfter d.file before = d.file :=
        fileAfter_eq_self fun action haction =>
          (hharmless action (List.mem_append_left _ haction)).ne_save
      rw [hfile]
      rcases hharmless (.send message) (by simp) with ⟨message', heq, hann⟩ | ⟨command, heq⟩
      · cases heq
        by_cases hsaved : p.startSaved
        · rwa [hv.memory hsaved] at hann
        · rw [(hv.unsaved (by simpa using hsaved)).1] at hann
          exact hann.of_empty
      · exact absurd heq (by simp)
    | commit hcommit hrest =>
      rename_i next recorded gate worker sends
      rcases before with _ | ⟨first, before⟩
      · exact absurd hfullActions (by simp)
      · rw [List.cons_append, List.cons.injEq] at hfullActions
        obtain ⟨rfl, htail⟩ := hfullActions
        change Announced (fileAfter (trim now next) before) message
        have hmem : ∀ action ∈ before ++ .send message :: (after ++ rest),
            Harmless (trim now next) action ∨ ∃ command, action = .startWorker command := by
          intro action haction
          rw [htail] at haction
          rcases List.mem_append.mp haction with h | h
          · exact .inl (hrest action h)
          · obtain ⟨command, -, rfl⟩ := List.mem_map.mp h
            exact .inr ⟨command, rfl⟩
        have hfile : fileAfter (trim now next) before = trim now next := by
          refine fileAfter_eq_self fun action haction => ?_
          rcases hmem action (List.mem_append_left _ haction) with h | ⟨command, rfl⟩
          · exact h.ne_save
          · simp
        rw [hfile]
        rcases hmem (.send message) (by simp) with
          (⟨message', heq, hann⟩ | ⟨command, heq⟩) | ⟨command, heq⟩
        · cases heq
          exact hann
        · exact absurd heq (by simp)
        · exact absurd heq (by simp)

end Device

end StylyMdm.Client
