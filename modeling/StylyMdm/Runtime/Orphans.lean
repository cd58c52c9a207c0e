import StylyMdm.Library.Run
import StylyMdm.Runtime.Coroutines

/-!
# No orphaned execution

What becomes of the row of a device that loses its session: the steps that take a session away, set
one, or give one up, and the tasks of the server, all of which keep the discipline of
`StylyMdm.Runtime.Custody`. So in every run with an orderly history, a device without a session has
no active row but a reconciling one with a deadline, as soon as nobody who has its lock is waiting
for the store.

The coroutines that are not steady are here, since they change the context: `popSession` leads from
`served` to `owed`, opening a session from `owed` back to `served`, and giving up from `owed` to
`locked`, where the history records what was left. `Closes` is the statement about a whole task or
section: whatever context it ends in, no debt is left.

`lawful` and `wp_body` are the two hypotheses of the soundness theorem of `Library.Coop`, and
`no_orphaned_execution` is what it gives for every run of the pool, restarts included. Of the two
runs at the end one closes a socket in an orderly way, in the other an acceptance arrives after the
session is gone.
-/

namespace StylyMdm.Runtime

open PushJobs Coop

section Owed

variable {cfg : Config} {i : Nat} {d : DeviceId} {β : Type}

/-! ### Losing and opening a session -/

open Custody in
/-- The session of the device is taken away under its lock. -/
theorem wp_popSession {owes : Bool} {s : Server} {Q : Unit → Server → Stage → Prop}
    (hQ : ∀ s', s'.store = s.store → s'.memory.sessions d = none → Q () s' (some (d, true))) :
    wp (system cfg) custody i (popSession d) Q s (some (d, owes)) := by
  refine ⟨some (d, true), fun howns => ?_, hQ _ rfl (Function.update_self ..)⟩
  refine ⟨List.prefix_refl _, fun h => h, fun d' session hsession => .inl ?_, fun _ _ _ h => h,
    fun d' owes' hg => ?_, fun d' hd' => ⟨?_, fun _ _ => .refl d' _⟩, fun d' owes' hg _ _ => ?_⟩
  · change Function.update s.memory.sessions d none d' = some session at hsession
    by_cases hd : d' = d
    · subst hd
      rw [Function.update_self] at hsession
      exact absurd hsession (by simp)
    · rwa [Function.update_of_ne hd] at hsession
  · cases hg
    exact howns d owes rfl
  · refine Function.update_of_ne ?_ _ _
    rintro rfl
    exact hd' owes rfl
  · cases hg
    exact .inl rfl

/-- Taking the session away owes the device its settlement. -/
theorem leads_popSession : Leads cfg i (.served d) (popSession d) (.owed d) :=
  fun _ hs => wp_popSession fun _ hstore hnone =>
    ⟨rfl, Context.holds_owed (by rw [hstore]; exact hs.sound) hnone⟩

open Custody in
/-- The session of the device is set. -/
theorem leads_setSession {session : LiveSession} (hws : session.ws = i) :
    Leads cfg i (.owed d) (setMemory fun m =>
      { m with sessions := Function.update m.sessions d (some session) }) (.served d) := by
  intro s hs
  have hset : Function.update s.memory.sessions d (some session) d ≠ none := by
    rw [Function.update_self]
    exact Option.some_ne_none _
  refine ⟨some (d, false), fun howns => ?_, rfl, Context.holds_served hs.sound hset⟩
  refine ⟨List.prefix_refl _, fun h => h, fun d' session' hsession' => ?_, fun _ _ _ h => h,
    fun d' owes' hg => ?_, fun d' hd' => ⟨?_, fun _ _ => .refl d' _⟩, fun d' owes' hg _ hnone => ?_⟩
  · change Function.update s.memory.sessions d (some session) d' = some session' at hsession'
    by_cases hd : d' = d
    · subst hd
      rw [Function.update_self, Option.some.injEq] at hsession'
      exact .inr (by rw [← hsession', hws])
    · rw [Function.update_of_ne hd] at hsession'
      exact .inl hsession'
  · cases hg
    exact howns d true rfl
  · refine Function.update_of_ne ?_ _ _
    rintro rfl
    exact hd' true rfl
  · cases hg
    exact absurd hnone hset

open Custody in
/-- A task that gives up tells the history so, and is free if that is in order. -/
theorem leads_giveUp : Leads cfg i (.owed d) (giveUp d) (.locked d) := by
  intro s hs
  have hnone := hs.gone d rfl
  refine ⟨some (d, false), fun howns => ?_, rfl, ?_⟩
  · dsimp only
    rw [if_pos hnone]
    refine ⟨List.prefix_append _ _, fun h => h, fun _ _ h => .inl h, fun _ _ _ h => h,
      fun d' owes' hg => ?_, fun d' _ => ⟨rfl, fun _ _ => .refl d' _⟩,
      fun d' owes' hg hlog _ => .inr (.inl ?_)⟩
    · cases hg
      exact howns d true rfl
    · cases hg
      exact hlog _ (List.mem_append_right _ (List.mem_singleton_self _))
  · dsimp only
    rw [if_pos hnone]
    exact Context.holds_locked (s := s.record (.dropped s.store d)) hs.sound d

/-! ### After the session is gone -/

/-- The device is owed, and settled if the history is orderly. -/
structure Repaid (d : DeviceId) (s : Server) : Prop where
  holds : (Context.owed d).Holds s
  settled : Orderly s.log → s.store.Settled d

/-- A call that settles the device. -/
theorem wp_repay {c : RuntimeCall} {f : Except StoreError (Reply × Store) → Program β} {s : Server}
    {Q : β → Server → Stage → Prop} (hs : (Context.owed d).Holds s) (hnil : c.revives = [])
    (hsettled : s.stopped = false → Orderly (s.called c).log → (s.called c).store.Settled d)
    (hf : ∀ result s', Repaid d s' → wp (system cfg) custody i (f result) Q s' (some (d, true))) :
    wp (system cfg) custody i (call c >>= f) Q s (some (d, true)) := by
  rw [wp_bind]
  refine ⟨some (d, true), Custody.move_called (by rw [hnil]; simp), fun _ _ => ⟨_, rfl⟩,
    fun s' hrely answer henabled => hf _ s' ⟨(hs.called c).rely hrely, fun hlog => ?_⟩⟩
  have hrunning : s.stopped = false := by simpa using (show (!s.stopped) = true from henabled)
  have hcalled := hlog.of_prefix hrely.log
  exact (hrely.frozen d true rfl hlog ((hs.called c).gone d rfl)).settled
    (hsettled hrunning hcalled)

/-- **Losing a connection settles the device**: the row that was active is put back or moved to
reconciliation, or another task has taken it out of the live states meanwhile. -/
theorem wp_connectionLost {reason : String} {s : Server} (hs : (Context.owed d).Holds s) :
    wp (system cfg) custody i (connectionLost cfg d reason)
      (fun _ s' g => g = some (d, true) ∧ Repaid d s') s (some (d, true)) := by
  unfold connectionLost
  refine wp_query (c := .owed d) fun s₁ hrely => ?_
  have hs₁ := hs.rely hrely
  have hfrozen : Orderly s₁.log → Store.Frozen d s.store s₁.store :=
    fun hlog => hrely.frozen d true rfl hlog (hs.gone d rfl)
  split
  · rename_i hnone
    refine ⟨rfl, hs₁, fun hlog => (hfrozen hlog).settled fun k row hrow => ?_⟩
    have hnot := Store.not_active_of_activeAssignment hs.sound.wellFormed hnone hrow
    by_contra hlive
    rw [DeviceState.isActive_of_isLive (by simpa using hlive)] at hnot
    exact Bool.noConfusion hnot
  · rename_i row hfound
    obtain ⟨hrow, -, hactive⟩ := Store.activeAssignment_eq_some hfound
    rw [wp_bind]
    refine wp_releaseExact fun s₂ hquiet => ?_
    have hs₂ := hs₁.quiet hquiet
    -- what the call finds is what the query found, or the row is no longer live
    have hcall : ∀ c : RuntimeCall, c.revives = [] →
        (∀ row₁, s₂.store.device? row.jobId d = some row₁ → row₁.state = row.state →
          row.state.isLive → ∃ row₂, (s₂.store.runtimeStep true (s₂.clock, c)).device? row.jobId d =
            some row₂ ∧ row₂.state.isLive = false) →
        s₂.stopped = false → Orderly (s₂.called c).log → (s₂.called c).store.Settled d := by
      intro c hnil hdeal hrunning hlog
      have hlog₂ : Orderly s₂.log := hlog.of_prefix (s₂.log_called c)
      have hfrozen₂ : Store.Frozen d s.store s₂.store := by
        rw [hquiet.store]
        exact hfrozen (hlog₂.of_prefix hquiet.log)
      rw [Server.called, hrunning]
      exact Store.settled_runtimeStep hs.sound hrow hactive hfrozen₂ (by rw [hnil]; simp) hdeal
    split
    · rename_i hwaiting
      refine wp_repay hs₂ rfl (hcall _ rfl fun row₁ hrow₁ hstate₁ _ => ?_) fun result s' hs' => ?_
      · obtain ⟨row₂, hrow₂, hstate₂⟩ := Store.runtimeStep_transition s₂.clock
          .connectionLost hs₂.sound hrow₁ (by rwa [hstate₁])
          (by rw [hstate₁, hwaiting]; decide) (by rw [hstate₁, hwaiting]; decide)
        exact ⟨row₂, hrow₂, by rw [hstate₂]; rfl⟩
      · dsimp only
        split <;> exact ⟨rfl, hs'⟩
    · split
      · rename_i hexecuting
        dsimp only
        refine wp_nowMs (wp_repay hs₂ rfl (hcall _ rfl fun row₁ hrow₁ hstate₁ _ => ?_)
          fun result s' hs' => ?_)
        · rw [← hstate₁]
          have hvalid : validDeviceTransition row₁.state .reconciling := by
            rw [hstate₁]
            revert hexecuting
            rcases row.state <;> decide
          obtain ⟨row₂, hrow₂, hstate₂⟩ := Store.runtimeStep_reconciling s₂.clock
            hs₂.sound hrow₁ (by rwa [hstate₁]) hvalid
          exact ⟨row₂, hrow₂, by rw [hstate₂]; rfl⟩
        · split <;> exact ⟨rfl, hs'⟩
      · rename_i hwaiting hexecuting
        refine ⟨rfl, hs₂, fun hlog => ?_⟩
        rw [hquiet.store]
        refine (hfrozen (hlog.of_prefix hquiet.log)).settled ?_
        refine hs.sound.settled_of_active hrow hactive ?_
        revert hwaiting hexecuting
        rcases row.state <;> decide

/-- `disconnect_device` settles every device whose session it takes, before it gives the lock back.
-/
theorem steady_disconnectDevice :
    Steady cfg i .free (disconnectDevice cfg i d) := by
  unfold disconnectDevice
  refine (leads_acquire d).bind fun _ => (steady_setMemory ?_).bind fun _ s hs => wp_memory ?_
  · intro m
    split <;> exact ⟨rfl, rfl⟩
  split
  · exact ((leads_release d).bind fun _ => .pure _) s hs
  · rw [wp_bind]
    refine wp_popSession fun s₁ hstore₁ hnone₁ => ?_
    have hs₁ : (Context.owed d).Holds s₁ :=
      Context.holds_owed (by rw [hstore₁]; exact hs.sound) hnone₁
    have hready : Steady cfg i (.owed d)
        (setMemory fun m => if m.ownsDevice d i then m.setReady d false else m) := by
      refine steady_setMemory fun m => ?_
      split <;> exact ⟨rfl, rfl⟩
    rw [wp_bind]
    refine wp_mono (hready s₁ hs₁) fun _ s₂ g hpost => ?_
    obtain ⟨rfl, hs₂⟩ := hpost
    rw [wp_bind]
    refine wp_mono (wp_connectionLost hs₂) fun result s₃ g hpost => ?_
    obtain ⟨rfl, hs₃⟩ := hpost
    rw [wp_bind]
    refine wp_release (fun _ hlog _ => hs₃.settled hlog) fun s₄ hstore₄ _ => ⟨rfl, ?_⟩
    exact Context.holds_free (by rw [hstore₄]; exact hs₃.holds.sound)

/-! ### Registering -/

/-- A fence for what a registration reports. -/
theorem steady_fenceReported (session : LiveSession) (active : ActiveReport) (reason : String)
    {c : Context} : Steady cfg i c (fenceReported d session active reason) := by
  unfold fenceReported
  refine (steady_call (.of_nil rfl)).bind fun result => ?_
  split <;> exact .pure _

/-- A report of a `REGISTER` may revive the row of the device, which the registration still owes. -/
theorem steady_registrationActiveSnapshots (session : LiveSession) (active : ActiveReport) :
    Steady cfg i (.owed d) (registrationActiveSnapshots d session active) := by
  unfold registrationActiveSnapshots
  split
  · refine (steady_query _).bind fun assignment => ?_
    split
    · exact steady_fenceReported _ _ _
    · split
      · refine (steady_fenceReported _ _ _).bind fun fenced => ?_
        split
        · exact .pure _
        · split
          · exact .pure _
          · refine (steady_call (.of_nil rfl)).bind fun result => ?_
            split <;> exact .pure _
      · split
        · exact .pure _
        · refine (steady_call fun d' hd' => ?_).bind fun result => ?_
          · rw [List.mem_singleton.mp hd']
            exact .inr (.inl rfl)
          · split <;> exact .pure _
  · exact steady_fenceReported _ _ _

/-- The report of a registration, which comes while the device is owed. -/
theorem steady_registrationReport (session : LiveSession) (report : RuntimeReport) :
    Steady cfg i (.owed d) (registrationReport d session report) := by
  unfold registrationReport
  split
  · refine (steady_registrationActiveSnapshots _ _).bind fun result => ?_
    split <;> exact .pure _
  · split
    · refine (steady_call (.of_nil rfl)).bind fun result => ?_
      split
      all_goals
        refine (Leads.pure _).bind fun cleared => ?_
        dsimp only
        split
        · exact .pure _
        · exact (steady_query _).bind fun _ => .pure _
    · refine (Leads.pure _).bind fun cleared => ?_
      dsimp only
      split
      · exact .pure _
      · exact (steady_query _).bind fun _ => .pure _

/-- Setting the session repays the device; without `REGISTERED` the session is taken away again. -/
theorem leads_openSession (session : LiveSession) (hws : session.ws = i) :
    Leads cfg i (.owed d) (openSession i d session) (.locked d) := by
  unfold openSession
  refine (leads_setSession hws).bind fun _ => ?_
  refine (steady_sendStr _ _ _).bind fun failure => ?_
  split
  · exact (Leads.pure _).locked
  · refine steady_memory.bind fun m => ?_
    split
    · exact leads_popSession.bind fun _ => leads_giveUp.bind fun _ => .pure _
    · intro s hs
      -- the session is there, so nothing is told
      have hsame : ¬s.memory.sessions d = none := hs.session d rfl
      rw [wp_bind]
      refine wp_quiet (g := some (d, false)) ?_ ⟨rfl, ?_⟩
      · rw [if_neg hsame]
        exact .refl s
      · rw [if_neg hsame]
        exact Context.holds_locked hs.sound d

/-- The WebSocket has no session yet. -/
def Unregistered (i : Nat) (s : Server) : Prop :=
  ∀ d session, s.memory.sessions d = some session → session.ws ≠ i

open Custody in
/-- A new WebSocket takes the session of an older one away, and owes the device in any case. -/
theorem wp_replacePrevious {s : Server} (hs : (Context.locked d).Holds s)
    (hnew : Unregistered i s) :
    wp (system cfg) custody i (replacePrevious cfg i d)
      (fun _ s' g => g = some (d, true) ∧ (Context.owed d).Holds s') s (some (d, false)) := by
  unfold replacePrevious
  rw [wp_bind]
  have howe : Owns i (some (d, false)) s → Move i s (some (d, false)) s (some (d, true)) := by
    intro howns
    refine { (Quiet.refl s).move howns with owns := ?_, held := ?_ }
    · rintro d' owes heq
      cases heq
      exact howns d false rfl
    · rintro d' owes heq _ _
      cases heq
      exact .inl rfl
  refine ⟨some (d, true), howe, ?_⟩
  rw [id_eq, wp]
  split
  · rename_i hnone
    exact ⟨rfl, Context.holds_owed hs.sound hnone⟩
  · rename_i previous hprevious
    rw [if_neg (hnew d previous hprevious), wp_bind]
    refine wp_popSession fun s' hstore hnone => ?_
    have hs' : (Context.owed d).Holds s' :=
      Context.holds_owed (by rw [hstore]; exact hs.sound) hnone
    exact wp_mono (wp_connectionLost hs') fun _ _ _ hpost => ⟨hpost.1, hpost.2.holds⟩

/-- The part of `register_device` under the lock: a new WebSocket ends in a device that is settled
or served. -/
theorem wp_registerLocked {session : LiveSession} {report : RuntimeReport} {s : Server}
    (hs : (Context.locked d).Holds s) (hnew : Unregistered i s) (hws : session.ws = i) :
    wp (system cfg) custody i (registerLocked cfg i d session report)
      (fun _ s' g => g = some (d, false) ∧ (Context.locked d).Holds s') s (some (d, false)) := by
  unfold registerLocked
  refine wp_memory ?_
  split
  · exact ⟨rfl, hs⟩
  · refine wp_then (c := .owed d) (e := .locked d) (wp_replacePrevious hs hnew) fun result => ?_
    split
    · exact leads_giveUp.bind fun _ => .pure _
    · refine (steady_registrationReport _ _).bind fun reported => ?_
      split
      · exact leads_giveUp.bind fun _ => .pure _
      · refine steady_memory.bind fun m => ?_
        split
        · exact leads_giveUp.bind fun _ => .pure _
        · refine (leads_openSession session hws).bind fun failure => ?_
          split
          · exact .pure _
          · refine steady_memory.bind fun m => ?_
            split
            · exact .pure _
            · refine (steady_setMemory fun m => ?_).bind fun _ => .pure _
              dsimp only
              split <;> exact ⟨rfl, rfl⟩

/-- `register_device` of a new WebSocket, from no lock to no lock. -/
theorem wp_registerDevice {registration : Registration} {s : Server}
    (hs : Context.free.Holds s) (hnew : Unregistered i s) :
    wp (system cfg) custody i (registerDevice cfg i registration)
      (fun _ s' g => g = none ∧ Context.free.Holds s') s none := by
  unfold registerDevice
  refine wp_memory ?_
  dsimp only
  rw [wp_bind]
  have hquiet : Custody.Quiet s
      (s.withMemory fun m => { m with nextSession := m.nextSession + 1 }) :=
    ⟨List.prefix_refl _, rfl, rfl, rfl⟩
  refine wp_quiet hquiet ?_
  change wp (system cfg) custody i (acquire i registration.deviceId >>= _) _ _ none
  rw [wp_bind]
  refine wp_acquire hs.sound fun s₁ hsound₁ hrely₁ => ?_
  have hnew₁ : Unregistered i s₁ := fun d session hsession hws =>
    hnew d session (hrely₁.mine d session hsession hws) hws
  refine wp_then (c := .locked registration.deviceId) (e := .free)
    (wp_registerLocked (Context.holds_locked hsound₁ _) hnew₁ rfl) fun registered => ?_
  refine (leads_release _).bind fun _ => ?_
  split
  · exact .pure _
  · exact .pure _
  · refine steady_memory.bind fun m => ?_
    split
    · refine (steady_requestReconcile _).bind fun asked => ?_
      split
      · exact .pure _
      · exact steady_wake.bind fun _ => .pure _
    · refine (Leads.pure _).bind fun asked => ?_
      split
      · exact .pure _
      · exact steady_wake.bind fun _ => .pure _

end Owed

/-! ### The tasks -/

section Tasks

variable {cfg : Config} {i : Nat} {c : Context}

variable (cfg) in
/-- The program is the body of a task: it ends without a lock, and what it goes on as may start. -/
def Closes (i : Nat) (c : Context) (p : Program (Option Task)) : Prop :=
  ∀ s, c.Holds s → wp (system cfg) custody i p (custody.after i) s c.stage

/-- A body may begin with a program that leads to its context. -/
theorem Leads.closes {β : Type} {p : Program β} {f : β → Program (Option Task)} {e : Context}
    (hp : Leads cfg i c p e) (hf : ∀ b, Closes cfg i e (f b)) : Closes cfg i c (p >>= f) := by
  intro s hs
  rw [wp_bind]
  refine wp_mono (hp s hs) fun b s' g hpost => ?_
  obtain ⟨rfl, hs'⟩ := hpost
  exact hf b s' hs'

/-- A task that ends has no lock. -/
theorem closes_none : Closes cfg i .free (pure none) := fun _ _ => rfl

/-- A task that is no WebSocket may start wherever no lock is held. -/
theorem entered_of_holds {task : Task} {s : Server} (hs : Context.free.Holds s)
    (htask : ∀ registration, task ≠ .socket registration) : Custody.Entered task i s none :=
  ⟨rfl, hs.sound, fun registration heq => absurd heq (htask registration)⟩

/-- A task may go on as one that is no WebSocket. -/
theorem closes_some {task : Task} (htask : ∀ registration, task ≠ .socket registration) :
    Closes cfg i .free (pure (some task)) := fun _ hs => entered_of_holds hs htask

/-- The scheduler starts a dispatch for each device that is online. -/
theorem closes_schedulerRun : Closes cfg i .free schedulerRun := by
  unfold schedulerRun
  refine Leads.closes (e := .free) (.await fun _ => .pure _) fun _ => ?_
  refine (steady_setMemory ?_).closes fun _ => closes_some fun _ => Task.noConfusion
  exact fun _ => ⟨rfl, rfl⟩

/-- A device that is online has a session. -/
theorem session_of_online {s : Server} {d : DeviceId} (h : d ∈ onlineDevices s) :
    s.memory.sessions d ≠ none := by
  rw [onlineDevices, List.mem_filter, Option.isSome_iff_exists] at h
  obtain ⟨-, session, hsession⟩ := h
  exact Memory.session_of_dispatchSession hsession

/-- A claim is issued in the step that has looked which devices are connected. -/
theorem closes_schedulerClaims : Closes cfg i .free schedulerClaims := by
  intro s hs
  unfold schedulerClaims
  rw [wp_bind]
  refine wp_quiet (.refl s) ?_
  change wp (system cfg) custody i (call (.claim (onlineDevices s)) >>= _) _ s none
  rw [wp_bind]
  refine wp_mono (wp_issue (c := .free) hs fun d hd => .inl (session_of_online hd))
    fun result s' g hpost => ?_
  obtain ⟨rfl, hs'⟩ := hpost
  split
  · exact steady_sleep.closes (fun _ => closes_some fun _ => Task.noConfusion) s' hs'
  · rw [wp_bind]
    exact ⟨none, none, ⟨rfl, rfl, _, _, rfl⟩, entered_of_holds hs' fun _ => Task.noConfusion⟩
  · exact closes_some (fun _ => Task.noConfusion) s' hs'

/-- The recovery of a dispatch. -/
theorem closes_recoverDispatch (jobId : JobId) (deviceId : DeviceId) (error : String) :
    Closes cfg i .free (recoverDispatch cfg i jobId deviceId error) := by
  unfold recoverDispatch
  refine (steady_recoverRound _ _ _).closes fun ended => ?_
  split
  · exact steady_wake.closes fun _ => closes_none
  · exact steady_sleep.closes fun _ => closes_some fun _ => Task.noConfusion

/-- `_dispatch_assignment`, with its handler for unexpected exceptions. -/
theorem closes_dispatchAssignment (jobId : JobId) (deviceId : DeviceId) :
    Closes cfg i .free (dispatchAssignment cfg i jobId deviceId) := by
  unfold dispatchAssignment
  refine (steady_dispatchAssignmentInner _ _).closes fun result => ?_
  split
  · exact steady_wake.closes fun _ => closes_none
  · refine steady_memory.closes fun m => ?_
    split
    · exact (steady_clearDispatchWaiters _).closes fun _ => closes_recoverDispatch _ _ _
    · exact closes_recoverDispatch _ _ _

/-- The end of a WebSocket handler leaves the sessions alone. -/
theorem steady_leave (d : DeviceId) : Steady cfg i .free (leave i d) := by
  refine steady_setMemory fun m => ?_
  split <;> exact ⟨rfl, rfl⟩

/-- A new WebSocket registers and goes on as a serving one. -/
theorem wp_socket {registration : Registration} {s : Server} (hs : Context.free.Holds s)
    (hnew : Unregistered i s) :
    wp (system cfg) custody i (socket cfg i registration) (custody.after i) s none := by
  unfold socket
  dsimp only
  rw [wp_bind]
  refine wp_quiet (Custody.Quiet.mk (List.prefix_refl _) rfl rfl rfl) ?_
  change wp (system cfg) custody i (registerDevice cfg i registration >>= _) _ _ none
  rw [wp_bind]
  refine wp_mono (wp_registerDevice (Context.holds_free hs.sound) hnew) fun result s' g hpost => ?_
  obtain ⟨rfl, hs'⟩ := hpost
  split
  · exact closes_some (fun _ => Task.noConfusion) s' hs'
  · exact (steady_leave _).closes (fun _ => closes_none) s' hs'

/-- A registration that is repeated is only acknowledged. -/
theorem steady_acknowledgeRegistration (d : DeviceId) :
    Steady cfg i .free (acknowledgeRegistration i d) := by
  unfold acknowledgeRegistration
  refine steady_memory.bind fun m => ?_
  split
  · exact .pure _
  · dsimp only
    split
    · exact .pure _
    · exact steady_sendStr _ _ _

/-- One round of a serving WebSocket, however it ends. -/
theorem closes_serve (d : DeviceId) : Closes cfg i .free (serve cfg i d) := by
  unfold serve
  refine Leads.closes (e := .free) (.await fun answer => .pure answer) fun received => ?_
  split
  · refine (PushRuntime.steady_handleDeviceMessage _).closes fun result => ?_
    split
    · exact closes_some fun _ => Task.noConfusion
    · exact (steady_leave _).closes fun _ => closes_none
  · refine (steady_acknowledgeRegistration _).closes fun failure => ?_
    split
    · exact closes_some fun _ => Task.noConfusion
    · exact (steady_leave _).closes fun _ => closes_none
  · refine steady_disconnectDevice.closes fun _ => ?_
    exact (steady_leave _).closes fun _ => closes_none
  · refine (steady_leave _).closes fun _ => ?_
    exact steady_disconnectDevice.closes fun _ => closes_none

/-- The sweep over the acceptances that are overdue. -/
theorem steady_sweepAcceptances (rows : List Store.Expired) :
    Steady cfg i .free (sweepAcceptances cfg i rows) := by
  induction rows with
  | nil => exact .pure _
  | cons row rows ih =>
    unfold sweepAcceptances
    refine steady_memory.bind fun m => ?_
    dsimp only
    split
    · refine steady_nowMs.bind fun time => (steady_call (.of_nil rfl)).bind fun result => ?_
      split
      · exact steady_wake.bind fun _ => ih
      · exact (steady_requestReconcile _).bind fun _ => steady_wake.bind fun _ => ih
    · exact ih

/-- The sweep over the reconciliations that are overdue. -/
theorem steady_sweepReconciliations (rows : List Store.Expired) :
    Steady cfg i .free (sweepReconciliations rows) := by
  induction rows with
  | nil => exact .pure _
  | cons row rows ih =>
    unfold sweepReconciliations
    refine steady_memory.bind fun m => steady_nowMs.bind fun time => ?_
    refine (steady_call (.of_nil rfl)).bind fun result => ?_
    split
    · exact ih
    · exact (steady_releaseExact _ _ _).bind fun _ => steady_wake.bind fun _ => ih

/-- One round of the housekeeping. -/
theorem closes_housekeeping : Closes cfg i .free (housekeeping cfg i) := by
  unfold housekeeping
  refine steady_sleep.closes fun _ => steady_nowMs.closes fun timestamp => ?_
  refine (steady_query _).closes fun acceptances => ?_
  refine (steady_query _).closes fun reconciliations => ?_
  refine (steady_sweepAcceptances _).closes fun _ => ?_
  refine (steady_sweepReconciliations _).closes fun _ => ?_
  exact closes_some fun _ => Task.noConfusion

/-- Every task keeps the discipline. -/
theorem wp_body {task : Task} {s : Server} {g : Stage} (h : Custody.Entered task i s g) :
    wp (system cfg) custody i ((system cfg).body i task) (custody.after i) s g := by
  obtain ⟨rfl, hsound, hnew⟩ := h
  have hs := Context.holds_free hsound
  cases task with
  | run => exact closes_schedulerRun s hs
  | claims => exact closes_schedulerClaims s hs
  | dispatch jobId deviceId => exact closes_dispatchAssignment _ _ s hs
  | recover jobId deviceId error => exact closes_recoverDispatch _ _ _ s hs
  | socket registration => exact wp_socket hs (hnew registration rfl)
  | serve deviceId => exact closes_serve _ s hs
  | reconcile deviceId =>
    exact (steady_requestReconcile _).closes (fun _ => closes_none) s hs
  | housekeeping => exact closes_housekeeping s hs

end Tasks

/-! ### Events -/

section Events

variable {cfg : Config} {s s' : Server} {g : Nat → Stage} {n : Nat}

/-- A quiet change of anyone keeps the invariant, and is one that every task may see. -/
theorem Custody.Quiet.keep (h : Custody.Quiet s s') (hinv : Custody.Inv s g n) :
    Custody.Inv s' g n ∧ ∀ j, Custody.Rely j (g j) s s' := by
  refine ⟨⟨?_, fun i d owes hg => ?_, hinv.bound, ?_, fun hlog d hnone => ?_⟩,
    fun j => ⟨h.log, fun hs => by rwa [h.store], fun d session hsession _ => ?_, fun d owes _ => ?_,
      fun d owes _ _ _ => ?_⟩⟩
  · rw [h.store]
    exact hinv.sound
  · rw [h.deviceLocks]
    exact hinv.owns i d owes hg
  · rw [h.sessions]
    exact hinv.sockets
  · rw [h.sessions] at hnone
    rw [h.store]
    exact hinv.settled (hlog.of_prefix h.log) d hnone
  · rwa [h.sessions] at hsession
  · rw [h.sessions]
  · rw [h.store]
    exact .refl d _

/-- A call from outside that revives nothing. -/
theorem Custody.Inv.called (hinv : Custody.Inv s g n) {call : RuntimeCall}
    (hnil : call.revives = []) :
    Custody.Inv (s.called call) g n ∧ ∀ j, Custody.Rely j (g j) s (s.called call) := by
  have hmemory := s.memory_called call
  have hfrozen : ∀ d, Orderly (s.called call).log → s.memory.sessions d = none →
      Store.Frozen d s.store (s.called call).store := fun d hlog hnone =>
    Server.frozen_called (fun hd => absurd hd (by rw [hnil]; simp)) hnone hlog
  refine ⟨⟨Server.sound_called hinv.sound call, ?_, hinv.bound, ?_, fun hlog d hnone => ?_⟩,
    fun j => ⟨s.log_called call, fun hs => Server.sound_called hs call, ?_, ?_, ?_⟩⟩
  · intro i d owes hg
    rw [hmemory]
    exact hinv.owns i d owes hg
  · rw [hmemory]
    exact hinv.sockets
  · rw [hmemory] at hnone
    rcases hinv.settled (hlog.of_prefix (s.log_called call)) d hnone with hsettled | howed
    · exact .inl ((hfrozen d hlog hnone).settled hsettled)
    · exact .inr howed
  · rw [hmemory]
    exact fun d session hsession _ => hsession
  · rw [hmemory]
    exact fun _ _ _ => rfl
  · exact fun d owes _ => hfrozen d

/-- A request of an admin revives no row. -/
theorem revives_of_isRequest {call : RuntimeCall} (h : isRequest call) : call.revives = [] := by
  cases call <;> first | rfl | exact absurd h Bool.false_ne_true

/-- After a restart no device has a live row. -/
theorem settled_restarted (hs : s.store.Sound) (isFile : String → Bool) (d : DeviceId) :
    (restarted cfg isFile s).store.Settled d := by
  let s₀ : Server := { s with memory := { wake := true }, stopped := false }
  let call := RuntimeCall.restart cfg.acceptReconciliationTimeoutMs cfg.reconciliationTimeoutMs
  have hsettled : (s₀.called call).store.Settled d :=
    Store.settled_runtimeStep_restart hs _ _ d
  have hfrozen : Store.Frozen d (s₀.called call).store (restarted cfg isFile s).store := by
    refine Store.frozen_runtimeStep (s₀.clock, .missingArtifacts isFile) ?_
    exact List.not_mem_nil
  exact hfrozen.settled hsettled

/-- The store is sound after the recovery of a restart. -/
theorem sound_restarted (cfg : Config) (hs : s.store.Sound) (isFile : String → Bool) :
    (restarted cfg isFile s).store.Sound :=
  Server.sound_called (Server.sound_called
    (s := { s with memory := { wake := true }, stopped := false }) hs _) _

/-- No device has a session after a restart. -/
theorem sessions_restarted (isFile : String → Bool) (d : DeviceId) :
    (restarted cfg isFile s).memory.sessions d = none := by
  rw [restarted, Server.memory_called, Server.memory_called]

/-- The discipline is lawful. -/
theorem lawful (cfg : Config) : Lawful (system cfg) custody Custody.Inv where
  rely_refl := Custody.Rely.refl
  rely_trans _ _ _ _ _ := Custody.Rely.trans
  move_inv hinv hi h := (h (hinv.owns _)).inv hinv hi
  move_rely hinv _ h hj := (h (hinv.owns _)).rely hinv hj
  hand_inv hinv hi h := by
    obtain ⟨rfl, rfl, -⟩ := h
    have hsame : ∀ g : Nat → Stage, ∀ i, Function.update g i (g i) = g :=
      fun g i => Function.update_eq_self i g
    rw [hsame]
    rename_i g n task
    rw [show (none : Stage) = g n from (hinv.bound n le_rfl).symm, hsame]
    exact hinv.start
  hand_entry hinv _ h := by
    obtain ⟨rfl, rfl, jobId, deviceId, rfl⟩ := h
    exact entered_of_holds (Context.holds_free hinv.sound) fun _ => Task.noConfusion
  start hinv _ _ := hinv.start
  entry_rely h hrely := h.rely hrely
  body := wp_body
  external_keep event _ _ _ hinv hreset := by
    cases event with
    | clock time => exact Custody.Quiet.keep ⟨List.prefix_refl _, rfl, rfl, rfl⟩ hinv
    | connect registration => exact Custody.Quiet.keep (.refl _) hinv
    | reconcile deviceId => exact Custody.Quiet.keep (.refl _) hinv
    | request call =>
      rename_i s g n
      by_cases hcall : isRequest call
      · have hcalled := hinv.called (revives_of_isRequest hcall)
        have hquiet : Custody.Quiet (s.called call)
            ((s.called call).withMemory fun m => { m with wake := true }) :=
          ⟨List.prefix_refl _, rfl, rfl, rfl⟩
        have hkeep := hquiet.keep hcalled.1
        simp only [system, hcall, if_true]
        exact ⟨hkeep.1, fun j => (hcalled.2 j).trans (hkeep.2 j)⟩
      · simp only [system, hcall]
        exact Custody.Quiet.keep (.refl _) hinv
    | stop => exact Custody.Quiet.keep ⟨List.prefix_refl _, rfl, rfl, rfl⟩ hinv
    | restart isFile => exact absurd hreset (by simp [system])
  external_reset := by
    intro event s g n hinv hreset
    cases event with
    | restart isFile =>
      refine ⟨sound_restarted cfg hinv.sound isFile, fun i d owes hg =>
        absurd hg (by simp [custody]),
        fun _ _ => rfl, fun d session hsession => ?_, fun _ d _ => .inl ?_⟩
      · exact absurd ((sessions_restarted isFile d).symm.trans hsession) (by simp)
      · exact settled_restarted hinv.sound isFile d
    | request call =>
      exfalso
      by_cases hcall : isRequest call <;> simp [system, hcall] at hreset
    | _ => exact absurd hreset (by simp [system])
  external_entry := by
    intro event s g n task hinv htask i hi
    cases event with
    | connect registration =>
      obtain rfl := List.mem_singleton.mp htask
      refine ⟨rfl, hinv.sound, fun _ _ d session hsession => ?_⟩
      have := hinv.sockets d session hsession
      omega
    | reconcile deviceId =>
      obtain rfl := List.mem_singleton.mp htask
      exact entered_of_holds (Context.holds_free hinv.sound) fun _ => Task.noConfusion
    | restart isFile =>
      have hsound := sound_restarted cfg hinv.sound isFile
      have hne : ∀ registration, task ≠ .socket registration := by
        rintro registration rfl
        simp [system] at htask
      exact entered_of_holds (Context.holds_free hsound) hne
    | request call =>
      exfalso
      by_cases hcall : isRequest call <;> simp [system, hcall] at htask
    | _ => exact absurd htask (by simp [system])

end Events

/-! ### Runs -/

/-- Nobody who has the lock of the device is waiting for the store. -/
def Quiescent (pool : Pool Server Wait Wait.Answer Task) (deviceId : DeviceId) : Prop :=
  ∀ i, (pool.state.memory.deviceLocks deviceId).head? = some i →
    ∃ what next, pool.program? i = some (.await what next) ∧
      ∀ answered, what ≠ .store answered

/-- A pool that is not yet running is safe. -/
theorem safe_off (cfg : Config) : off.Safe (system cfg) custody Custody.Inv := by
  refine ⟨fun _ => none, ⟨⟨.initial, fun i d owes hg => absurd hg (by simp), fun _ _ => rfl,
    fun d session hsession => absurd hsession (by simp [off]),
    fun _ d _ => .inl fun k row hrow => ?_⟩,
    fun _ _ => rfl, fun _ _ _ => rfl, List.nodup_nil, by simp [off], by simp [off]⟩⟩
  exact absurd hrow (by simp [off, Store.device?, Store.initial])

/-- **No orphaned execution.** In every run of the server with an orderly history: when a device has
no session and nobody who has its lock is waiting for the store, its active row, if it has one, is
reconciling and has a deadline. -/
theorem no_orphaned_execution (cfg : Config) (labels : List (Label Wait Wait.Answer ServerEvent)) :
    let pool := Run.exec (Pool.step (system cfg)) off labels
    Orderly pool.state.log → ∀ d, pool.state.memory.sessions d = none → Quiescent pool d →
      ∀ k row, pool.state.store.device? k d = some row → row.state.isActive →
        row.state = .reconciling ∧ row.reconciliationDeadline ≠ none := by
  intro pool hlog d hnone hquiet k row hrow hactive
  obtain ⟨g, hsafe⟩ : pool.Safe (system cfg) custody Custody.Inv :=
    Run.exec_invariant (fun _ label hs => hs.step (lawful cfg) label) (safe_off cfg) labels
  have hinv := hsafe.invariant
  have hsettled : pool.state.store.Settled d := by
    rcases hinv.settled hlog d hnone with hsettled | ⟨i, hg⟩
    · exact hsettled
    · -- the task that owes the device would be waiting for the store
      obtain ⟨what, next, hprogram, hwhat⟩ := hquiet i (hinv.owns i d true hg)
      obtain ⟨answered, rfl⟩ := hsafe.wait (lawful cfg) hprogram d hg
      exact absurd rfl (hwhat answered)
  have hstate := DeviceState.eq_reconciling hactive (hsettled k row hrow)
  exact ⟨hstate, hinv.sound.deadlined k d row hrow hstate⟩

/-! ### Two runs -/

/-- The default time-outs. -/
def defaultConfig : Config := ⟨15000, 60000, 1800000, true⟩

/-- The registration of the run below. -/
private def questRegistration : Registration where
  deviceId := "quest-1"
  canonical := true
  capabilities := [capPushJobIdV1]
  processInstanceId := some "process-1"
  httpBase := "http://mdm:8080"
  pushRuntime := .idle

/-- A device registers, and the command of a job is sent to it. -/
private def commandSent : List (Label Wait Wait.Answer ServerEvent) :=
  [.external (.restart fun _ => true)] ++
    Store.publishedJob.map (fun call => .external (.request call.2)) ++
    [.external (.request (.pushFiles "job-1")), .external (.connect questRegistration),
      .run 2, .resume 2 (.store true) (), .resume 2 (.store true) (), .resume 2 (.sendTurn 2) none,
      .resume 2 (.sending 2) none,
      .resume 0 .wake (), .run 0, .resume 0 (.store true) (),
      .resume 3 .transferSlot (), .resume 3 (.store true) (), .resume 3 (.sendTurn 2) none,
      .resume 3 (.sending 2) none]

/-- The connection is closed before the device has answered. -/
private def closedBeforeAccept : List (Label Wait Wait.Answer ServerEvent) :=
  commandSent ++
    [.resume 2 .receive .close, .resume 2 (.store true) (), .resume 2 (.store true) ()]

/-- The acceptance of the run below. -/
private def acceptedPayload : Payload :=
  { type := .pushJobAccepted, jobId := some "job-1", attempt := .one }

/-- The device accepts, and the connection is closed; `disconnect_device` has read the row when the
dispatch applies the answer. -/
private def closedAfterAccept : List (Label Wait Wait.Answer ServerEvent) :=
  commandSent ++
    [.resume 2 .receive (.message acceptedPayload), .resume 2 .receive .close,
      .resume 3 (.acceptFuture 1) (some (.accepted, acceptedPayload)),
      .resume 2 (.store true) (), .resume 2 (.store true) (), .resume 3 (.store true) (),
      .resume 3 (.transferFuture 0) (some "device_disconnect")]

/-- Entries that are orderly whatever they found. -/
private def Entry.isPlain : Entry → Bool
  | .called _ _ call => (acceptance call).isNone
  | .wrote _ _ _ => true
  | .dropped _ _ => false

/-- A history of plain steps is orderly. -/
private theorem orderly_of_plain {log : List Entry} (h : log.all Entry.isPlain) : Orderly log := by
  intro entry hentry
  have hplain := List.all_eq_true.mp h entry hentry
  cases entry with
  | called store memory call =>
    intro jobId deviceId hacceptance
    simp only [Entry.isPlain, hacceptance, Option.isNone_some] at hplain
    exact absurd hplain Bool.false_ne_true
  | wrote ws deviceId frame => trivial
  | dropped store deviceId => exact absurd hplain Bool.false_ne_true

/-- The row of the run in which the device is lost before it has answered. -/
theorem no_orphaned_execution_closed :
    ∃ row, (Run.exec (Pool.step (system defaultConfig)) off closedBeforeAccept).state.store.device?
      "job-1" "quest-1" = some row ∧ row.state = .reconciling ∧
        row.reconciliationDeadline ≠ none := by
  have hrun : (let s := (Run.exec (Pool.step (system defaultConfig)) off closedBeforeAccept).state
      s.log.all Entry.isPlain && (s.memory.sessions "quest-1").isNone &&
        (s.memory.deviceLocks "quest-1").isEmpty &&
        (s.store.device? "job-1" "quest-1").any fun row => row.state.isActive) = true := by
    decide +kernel
  simp only [Bool.and_eq_true, Option.any_eq_true, Option.isNone_iff_eq_none, List.isEmpty_iff]
    at hrun
  obtain ⟨⟨⟨hplain, hnone⟩, hlock⟩, row, hrow, hactive⟩ := hrun
  exact ⟨row, hrow, no_orphaned_execution defaultConfig closedBeforeAccept (orderly_of_plain hplain)
    "quest-1" hnone (fun i hi => absurd hi (by simp [hlock])) "job-1" row hrow hactive⟩

/-- An acceptance that is applied after the session is gone leaves a row that nothing looks after:
the device has no session, nobody has or wants its lock, and no dispatch is left. -/
theorem orphaned_by_acceptance :
    let pool := Run.exec (Pool.step (system defaultConfig)) off closedAfterAccept
    (pool.state.memory.sessions "quest-1").isNone ∧ pool.state.memory.deviceLocks "quest-1" = [] ∧
      pool.tasks.map Prod.fst = [0, 1] ∧
      (pool.state.store.device? "job-1" "quest-1").map DeviceRow.state = some .downloading := by
  decide +kernel

end StylyMdm.Runtime
