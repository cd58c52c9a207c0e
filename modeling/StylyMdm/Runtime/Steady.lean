import StylyMdm.Runtime.Custody

/-!
# Steady programs

`Leads cfg i c p e` says that a program keeps the discipline and leads from one context to another.
A `Context` is a stage and what is known of the server there: nothing (`free`), the lock of a device
(`locked`), its lock and that it has a session (`served`), or its lock and that its session has been
taken away (`owed`). Most programs are steady: they end in the context they start in.

This module is the interface between the discipline and the coroutines. It has the rule for
composition (`Leads.bind`), one rule for each primitive step, and one for each kind of await; the
weakest precondition of `Library.Coop` is not mentioned after it.

A store call is allowed in a context that is entitled to it (`Context.Entitles`): a call that makes
no row of a device live is allowed anywhere, one that does only where the device has a session, or
where the history is broken by the call itself. The lock is entered and left by `leads_acquire` and
`leads_release`, the second only without a debt.
-/

namespace StylyMdm.Runtime

open PushJobs Coop

/-- What a program assumes of the server. -/
inductive Context
  | free
  | locked (deviceId : DeviceId)
  | served (deviceId : DeviceId)
  | owed (deviceId : DeviceId)

namespace Context

/-- The stage at which the program runs. -/
def stage : Context → Stage
  | .free => none
  | .locked d | .served d => some (d, false)
  | .owed d => some (d, true)

/-- The assumption. -/
structure Holds (c : Context) (s : Server) : Prop where
  sound : s.store.Sound
  session : ∀ d, c = .served d → s.memory.sessions d ≠ none
  gone : ∀ d, c = .owed d → s.memory.sessions d = none

/-- The contexts in which anything may be awaited. -/
class Open (c : Context) : Prop where
  ne_owed : ∀ d, c ≠ .owed d

instance : Open .free := ⟨fun _ => Context.noConfusion⟩

instance (d : DeviceId) : Open (.locked d) := ⟨fun _ => Context.noConfusion⟩

instance (d : DeviceId) : Open (.served d) := ⟨fun _ => Context.noConfusion⟩

/-- In an open context no device is owed. -/
theorem stage_ne (c : Context) [c.Open] (d : DeviceId) : c.stage ≠ some (d, true) := by
  have hopen := Open.ne_owed (c := c) d
  cases c <;> simp_all [stage]

/-- A context depends on the store and on the session of its device. -/
theorem Holds.of_same {c : Context} {s s' : Server} (h : c.Holds s) (hsound : s'.store.Sound)
    (hsame : ∀ d owes, c.stage = some (d, owes) →
      s'.memory.sessions d = s.memory.sessions d) : c.Holds s' where
  sound := hsound
  session d hc := by
    rw [hsame d false (by rw [hc]; rfl)]
    exact h.session d hc
  gone d hc := by
    rw [hsame d true (by rw [hc]; rfl)]
    exact h.gone d hc

/-- Others keep the context while it awaits. -/
theorem Holds.rely {c : Context} {i : Nat} {s s' : Server} (h : c.Holds s)
    (hrely : Custody.Rely i c.stage s s') : c.Holds s' :=
  h.of_same (hrely.sound h.sound) hrely.kept

/-- A quiet change keeps it. -/
theorem Holds.quiet {c : Context} {s s' : Server} (h : c.Holds s) (hquiet : Custody.Quiet s s') :
    c.Holds s' :=
  h.of_same (by rw [hquiet.store]; exact h.sound) fun d _ _ => by rw [hquiet.sessions]

/-- Without a lock only the store is assumed. -/
theorem holds_free {s : Server} (h : s.store.Sound) : Holds .free s :=
  ⟨h, fun _ => Context.noConfusion, fun _ => Context.noConfusion⟩

/-- With the lock of a device nothing is assumed of its session. -/
theorem holds_locked {s : Server} (h : s.store.Sound) (d : DeviceId) : Holds (.locked d) s :=
  ⟨h, fun _ => Context.noConfusion, fun _ => Context.noConfusion⟩

/-- A device that is served has a session. -/
theorem holds_served {s : Server} {d : DeviceId} (h : s.store.Sound)
    (hsession : s.memory.sessions d ≠ none) : Holds (.served d) s := by
  refine ⟨h, fun d' hc => ?_, fun _ => Context.noConfusion⟩
  cases hc
  exact hsession

/-- A device that is owed has none. -/
theorem holds_owed {s : Server} {d : DeviceId} (h : s.store.Sound)
    (hnone : s.memory.sessions d = none) : Holds (.owed d) s := by
  refine ⟨h, fun _ => Context.noConfusion, fun d' hc => ?_⟩
  cases hc
  exact hnone

end Context

/-- A call that may be issued in a context: it revives rows of the device that is served or owed
only, or it is an acceptance. -/
def Context.Entitles (c : Context) (call : RuntimeCall) : Prop :=
  ∀ d ∈ call.revives, c = .served d ∨ c = .owed d ∨ ∃ jobId, acceptance call = some (jobId, d)

section Steady

variable (cfg : Config)

/-- The program leads from one context to the other. -/
def Leads (i : Nat) (c : Context) {β : Type} (p : Program β) (e : Context) : Prop :=
  ∀ s, c.Holds s →
    wp (system cfg) custody i p (fun _ s' g => g = e.stage ∧ e.Holds s') s c.stage

/-- The program keeps its context. -/
abbrev Steady (i : Nat) (c : Context) {β : Type} (p : Program β) : Prop := Leads cfg i c p c

variable {cfg} {i : Nat} {c e e' : Context} {β δ : Type}

/-- Programs in a row. -/
theorem Leads.bind {p : Program β} {f : β → Program δ} (hp : Leads cfg i c p e)
    (hf : ∀ b, Leads cfg i e (f b) e') : Leads cfg i c (p >>= f) e' := by
  intro s hs
  rw [wp_bind]
  refine wp_mono (hp s hs) fun b s' g hpost => ?_
  obtain ⟨rfl, hs'⟩ := hpost
  exact hf b s' hs'

/-- Returning keeps the context. -/
theorem Leads.pure (b : β) : Steady cfg i c (Pure.pure b : Program β) := fun _ hs => ⟨rfl, hs⟩

/-- Less is assumed. -/
theorem Leads.of_locked {d : DeviceId} {p : Program β} (h : Leads cfg i (.locked d) p e) :
    Leads cfg i (.served d) p e :=
  fun s hs => h s (Context.holds_locked hs.sound d)

/-- Less is promised. -/
theorem Leads.locked {d : DeviceId} {p : Program β} (h : Leads cfg i c p (.served d)) :
    Leads cfg i c p (.locked d) :=
  fun s hs => wp_mono (h s hs) fun _ _ _ hpost =>
    ⟨hpost.1, Context.holds_locked hpost.2.sound d⟩

/-! ### Reading and quiet changes -/

/-- A quiet change before a program. -/
theorem wp_quiet {update : Server → Server} {next : Server → Program β} {s : Server} {g : Stage}
    {Q : β → Server → Stage → Prop} (hquiet : Custody.Quiet s (update s))
    (h : wp (system cfg) custody i (next s) Q (update s) g) :
    wp (system cfg) custody i (.sync update next) Q s g :=
  ⟨g, fun howns => hquiet.move howns, h⟩

/-- A quiet change leads on. -/
theorem Leads.quiet {update : Server → Server} {next : Server → Program β}
    (hquiet : ∀ s, Custody.Quiet s (update s)) (hnext : ∀ s, Leads cfg i c (next s) e) :
    Leads cfg i c (.sync update next) e :=
  fun s hs => wp_quiet (hquiet s) (hnext s _ (hs.quiet (hquiet s)))

/-- Reading the memory. -/
theorem wp_memory {f : Memory → Program β} {s : Server} {g : Stage} {Q : β → Server → Stage → Prop}
    (h : wp (system cfg) custody i (f s.memory) Q s g) :
    wp (system cfg) custody i (memory >>= f) Q s g := by
  rw [wp_bind]
  exact wp_quiet (.refl s) h

/-- Reading the clock. -/
theorem wp_nowMs {f : Millis → Program β} {s : Server} {g : Stage} {Q : β → Server → Stage → Prop}
    (h : wp (system cfg) custody i (f s.clock) Q s g) :
    wp (system cfg) custody i (nowMs >>= f) Q s g := by
  rw [wp_bind]
  exact wp_quiet (.refl s) h

/-- Reading the memory is steady. -/
theorem steady_memory : Steady cfg i c memory :=
  .quiet .refl fun s => .pure s.memory

/-- Reading the clock is steady. -/
theorem steady_nowMs : Steady cfg i c nowMs :=
  .quiet .refl fun s => .pure s.clock

/-- A change of the other variables. -/
theorem steady_setMemory {f : Memory → Memory}
    (hf : ∀ m, (f m).sessions = m.sessions ∧ (f m).deviceLocks = m.deviceLocks) :
    Steady cfg i c (setMemory f) :=
  .quiet (fun s => ⟨List.prefix_refl _, rfl, (hf s.memory).1, (hf s.memory).2⟩)
    fun _ => .pure ()

/-- Waking the scheduler is steady. -/
theorem steady_wake : Steady cfg i c wake := steady_setMemory fun _ => ⟨rfl, rfl⟩

/-- The release of a slot is quiet: it resolves a future. -/
theorem quiet_releaseExact (jobId : JobId) (deviceId : DeviceId) (reason : String) (s : Server) :
    Custody.Quiet s (s.withMemory fun m => m.releaseExact jobId deviceId reason) := by
  have hsame : (s.memory.releaseExact jobId deviceId reason).sessions = s.memory.sessions ∧
      (s.memory.releaseExact jobId deviceId reason).deviceLocks = s.memory.deviceLocks := by
    unfold Memory.releaseExact
    split
    · exact ⟨rfl, rfl⟩
    · split <;> exact ⟨rfl, rfl⟩
  exact ⟨List.prefix_refl _, rfl, hsame.1, hsame.2⟩

/-- After a release anything may hold that holds after a quiet change. -/
theorem wp_releaseExact {jobId : JobId} {deviceId : DeviceId} {reason : String} {s : Server}
    {g : Stage} {Q : Unit → Server → Stage → Prop} (hQ : ∀ s', Custody.Quiet s s' → Q () s' g) :
    wp (system cfg) custody i (releaseExact jobId deviceId reason) Q s g :=
  wp_quiet (quiet_releaseExact jobId deviceId reason s)
    (hQ _ (quiet_releaseExact jobId deviceId reason s))

/-- So a release is steady. -/
theorem steady_releaseExact (jobId : JobId) (deviceId : DeviceId) (reason : String) :
    Steady cfg i c (releaseExact jobId deviceId reason) :=
  fun _ hs => wp_releaseExact fun _ hquiet => ⟨rfl, hs.quiet hquiet⟩

/-- The waiters of a dispatch are cleared without a change of sessions or locks. -/
theorem steady_clearDispatchWaiters (waiter : DispatchWaiter) :
    Steady cfg i c (clearDispatchWaiters waiter) := steady_setMemory fun _ => ⟨rfl, rfl⟩

/-! ### Awaiting -/

/-- In an open context anything may be awaited. -/
theorem Leads.await [c.Open] {what : Wait} {next : what.Answer → Program β}
    (hnext : ∀ answer, Leads cfg i c (next answer) e) : Leads cfg i c (.await what next) e :=
  fun _ hs => ⟨fun d hg => absurd hg (c.stage_ne d),
    fun s' hrely answer _ => hnext answer s' (hs.rely hrely)⟩

/-- The store may be awaited in every context. -/
theorem Leads.store {answered : Bool} {next : Wait.Answer (.store answered) → Program β}
    (hnext : ∀ answer, Leads cfg i c (next answer) e) :
    Leads cfg i c (.await (.store answered) next) e :=
  fun _ hs => ⟨fun _ _ => ⟨answered, rfl⟩,
    fun s' hrely answer _ => hnext answer s' (hs.rely hrely)⟩

/-- A query changes nothing. -/
theorem steady_query (f : Store → β) : Steady cfg i c (query f) :=
  .quiet .refl fun s => .store fun _ => .pure (f s.store)

/-- The query sees the store at the step in which it is issued. -/
theorem wp_query {f : Store → β} {next : β → Program δ} {s : Server} {Q : δ → Server → Stage → Prop}
    (h : ∀ s', Custody.Rely i c.stage s s' →
      wp (system cfg) custody i (next (f s.store)) Q s' c.stage) :
    wp (system cfg) custody i (query f >>= next) Q s c.stage := by
  rw [wp_bind]
  exact wp_quiet (.refl s) ⟨fun _ _ => ⟨_, rfl⟩, fun s' hrely _ _ => h s' hrely⟩

/-- A sleep, in an open context. -/
theorem steady_sleep [c.Open] : Steady cfg i c sleep := .await fun _ => .pure _

/-- The wait for an acceptance, in an open context. -/
theorem steady_waitAccept [c.Open] (future : Nat) : Steady cfg i c (waitAccept future) :=
  .await fun answer => .pure answer

/-- The wait for a transfer, in an open context. -/
theorem steady_waitTransfer [c.Open] (future : Nat) : Steady cfg i c (waitTransfer future) :=
  .await fun answer => .pure answer

/-- Sending waits for the socket, and may raise. -/
theorem steady_sendStr [c.Open] (ws : Nat) (deviceId : DeviceId) (frame : Frame) :
    Steady cfg i c (sendStr ws deviceId frame) := by
  refine .await fun answer => ?_
  cases answer with
  | some error => exact .pure _
  | none =>
    refine .quiet (fun s => ?_) fun s => ?_
    · cases frame <;> dsimp only <;> split
      all_goals first
        | exact ⟨List.prefix_append _ _, rfl, rfl, rfl⟩
        | exact .refl _
    · cases frame <;> dsimp only <;> split
      all_goals first
        | exact .await fun error => .pure error
        | exact .pure _

/-! ### Store calls -/

/-- A call is added to the history. -/
theorem Server.log_called (s : Server) (call : RuntimeCall) : s.log <+: (s.called call).log := by
  rw [Server.called]
  split
  · exact List.prefix_refl _
  · exact List.prefix_append _ _

/-- A call of the store leaves the memory alone. -/
theorem Server.memory_called (s : Server) (call : RuntimeCall) :
    (s.called call).memory = s.memory := by
  rw [Server.called]
  split <;> rfl

/-- A call keeps the store sound. -/
theorem Server.sound_called {s : Server} (h : s.store.Sound) (call : RuntimeCall) :
    (s.called call).store.Sound := by
  rw [Server.called]
  split
  · exact h
  · exact h.runtimeStep

/-- A device without a session is frozen by a call that does not revive it, and by an acceptance if
the history stays orderly. -/
theorem Server.frozen_called {s : Server} {call : RuntimeCall} {d : DeviceId}
    (hcall : d ∈ call.revives → ∃ jobId, acceptance call = some (jobId, d))
    (hnone : s.memory.sessions d = none) (hlog : Orderly (s.called call).log) :
    Store.Frozen d s.store (s.called call).store := by
  rw [Server.called] at hlog ⊢
  split
  · exact .refl d _
  · rename_i hrunning
    rw [if_neg hrunning] at hlog
    by_cases hd : d ∈ call.revives
    · obtain ⟨jobId, hacceptance⟩ := hcall hd
      have horderly : (Entry.called s.store s.memory call).Orderly :=
        hlog _ (List.mem_append_right _ (List.mem_singleton_self _))
      have hrows := horderly jobId d hacceptance hnone
      have hsame : s.store.runtimeStep true (s.clock, call) = s.store := by
        unfold acceptance at hacceptance
        split at hacceptance
        · cases hacceptance
          exact Store.runtimeStep_transition_of_not hrows
        · cases hacceptance
          exact Store.runtimeStep_transition_of_not hrows
        · exact absurd hacceptance (by simp)
      simp only [hsame]
      exact .refl d _
    · exact Store.frozen_runtimeStep _ hd

/-- A call that revives devices with a session only, or the one that the task owes. -/
theorem Custody.move_called {s : Server} {g : Stage} {call : RuntimeCall}
    (hcall : ∀ d ∈ call.revives, s.memory.sessions d ≠ none ∨ g = some (d, true) ∨
      ∃ jobId, acceptance call = some (jobId, d))
    (howns : Custody.Owns i g s) : Custody.Move i s g (s.called call) g := by
  have hmemory := s.memory_called call
  have hfrozen : ∀ d, g ≠ some (d, true) → Orderly (s.called call).log →
      s.memory.sessions d = none → Store.Frozen d s.store (s.called call).store := by
    intro d hg hlog hnone
    refine Server.frozen_called (fun hd => ?_) hnone hlog
    exact ((hcall d hd).resolve_left (absurd hnone)).resolve_left hg
  refine ⟨s.log_called call, fun hs => Server.sound_called hs call, ?_, ?_, ?_, ?_, ?_⟩
  · rw [hmemory]
    exact fun d session hsession => .inl hsession
  · rw [hmemory]
    exact fun d j _ hhead => hhead
  · rw [Custody.Owns, hmemory]
    exact howns
  · rw [hmemory]
    exact fun d hg => ⟨rfl, hfrozen d (hg true)⟩
  · rw [hmemory]
    intro d owes hg hlog hnone
    rcases owes with _ | _
    · exact .inr (.inr ⟨rfl, hnone, hfrozen d (by rw [hg]; simp) hlog hnone⟩)
    · exact .inl hg

/-- What a context entitles to revive has a session, is owed, or is accepted. -/
theorem Context.Entitles.revives {call : RuntimeCall} {s : Server} (h : c.Entitles call)
    (hs : c.Holds s) : ∀ d ∈ call.revives, s.memory.sessions d ≠ none ∨
      c.stage = some (d, true) ∨ ∃ jobId, acceptance call = some (jobId, d) := by
  intro d hd
  rcases h d hd with hserved | howed | hacceptance
  · exact .inl (hs.session d hserved)
  · exact .inr (.inl (by rw [howed]; rfl))
  · exact .inr (.inr hacceptance)

/-- A call keeps the context. -/
theorem Context.Holds.called {s : Server} (h : c.Holds s) (call : RuntimeCall) :
    c.Holds (s.called call) :=
  h.of_same (Server.sound_called h.sound call) fun d _ _ => by rw [Server.memory_called]

/-- A call that the state in which it is issued entitles to what it revives. -/
theorem wp_issue {call : RuntimeCall} {answer : Server → β} {s : Server} (hs : c.Holds s)
    (hcall : ∀ d ∈ call.revives, s.memory.sessions d ≠ none ∨ c.stage = some (d, true) ∨
      ∃ jobId, acceptance call = some (jobId, d)) :
    wp (system cfg) custody i (issue call answer) (fun _ s' g => g = c.stage ∧ c.Holds s') s
      c.stage :=
  ⟨c.stage, Custody.move_called hcall,
    Leads.store (fun _ => .pure (answer s)) _ (hs.called call)⟩

/-- A call that the context entitles to, with any answer read from the server. -/
theorem steady_issue {call : RuntimeCall} (h : c.Entitles call) (answer : Server → β) :
    Steady cfg i c (issue call answer) := fun _ hs => wp_issue hs (h.revives hs)

/-- A call that the context entitles to. -/
theorem steady_call {call' : RuntimeCall} (h : c.Entitles call') :
    Steady cfg i c (call call') := steady_issue h _

/-- A program goes on after a part that has led to the context it needs. -/
theorem wp_then {p : Program β} {f : β → Program δ} {s : Server} {g : Stage}
    (hp : wp (system cfg) custody i p (fun _ s' g => g = c.stage ∧ c.Holds s') s g)
    (hf : ∀ b, Leads cfg i c (f b) e) :
    wp (system cfg) custody i (p >>= f) (fun _ s' g => g = e.stage ∧ e.Holds s') s g := by
  rw [wp_bind]
  refine wp_mono hp fun b s' g hpost => ?_
  obtain ⟨rfl, hs'⟩ := hpost
  exact hf b s' hs'

/-- Most calls revive nothing. -/
theorem Context.Entitles.of_nil {call : RuntimeCall} (h : call.revives = []) : c.Entitles call :=
  fun d hd => absurd hd (by rw [h]; exact List.not_mem_nil)

/-- An acceptance may come in any context. -/
theorem Context.Entitles.of_acceptance {call : RuntimeCall} {jobId : JobId} {deviceId : DeviceId}
    (h : call.revives = [deviceId]) (ha : acceptance call = some (jobId, deviceId)) :
    c.Entitles call := by
  intro d hd
  rw [h, List.mem_singleton] at hd
  subst hd
  exact .inr (.inr ⟨jobId, ha⟩)

/-- The device that is served may be revived. -/
theorem Context.Entitles.served {call : RuntimeCall} {deviceId : DeviceId}
    (h : call.revives ⊆ [deviceId]) : (Context.served deviceId).Entitles call := by
  intro d hd
  have hmem := h hd
  rw [List.mem_singleton] at hmem
  exact .inl (by rw [hmem])

/-! ### The device lock -/

open Custody in
/-- Wait for the lock. -/
theorem wp_acquire {d : DeviceId} {s : Server} {Q : Unit → Server → Stage → Prop}
    (hs : s.store.Sound) (hQ : ∀ s', s'.store.Sound → Rely i none s s' →
      Q () s' (some (d, false))) :
    wp (system cfg) custody i (acquire i d) Q s none := by
  let s₁ := s.withMemory fun m =>
    { m with deviceLocks := Function.update m.deviceLocks d (m.deviceLocks d ++ [i]) }
  have hhead : ∀ d' j, (s.memory.deviceLocks d').head? = some j →
      (s₁.memory.deviceLocks d').head? = some j := by
    intro d' j hj
    change (Function.update s.memory.deviceLocks d (s.memory.deviceLocks d ++ [i]) d').head? = _
    by_cases hd : d' = d
    · subst hd
      rw [Function.update_self, List.head?_append, hj]
      rfl
    · rwa [Function.update_of_ne hd]
  have hmove : ∀ g, Owns i g s₁ → Move i s none s₁ g := fun g howns =>
    { log := List.prefix_refl _
      sound := fun h => h
      fresh := fun d' session hsession => .inl hsession
      locks := fun d' j _ hj => hhead d' j hj
      owns := howns
      unheld := fun d' _ => ⟨rfl, fun _ _ => .refl d' _⟩
      held := fun d' owes hg => absurd hg (by simp) }
  have hrely : Rely i none s s₁ :=
    { log := List.prefix_refl _
      sound := fun h => h
      mine := fun d' session hsession _ => hsession
      kept := fun d' owes hg => absurd hg (by simp)
      frozen := fun d' owes hg => absurd hg (by simp) }
  by_cases hempty : s.memory.deviceLocks d = []
  · refine ⟨some (d, false), fun _ => hmove _ ?_, ?_⟩
    · rintro d' owes heq
      cases heq
      change (Function.update s.memory.deviceLocks d (s.memory.deviceLocks d ++ [i]) d).head? = _
      rw [Function.update_self, hempty]
      rfl
    · dsimp only
      rw [if_pos hempty]
      exact hQ s₁ hs hrely
  · refine ⟨none, fun _ => hmove _ fun d' owes hg => absurd hg (by simp), ?_⟩
    dsimp only
    rw [if_neg hempty]
    refine ⟨fun d' hg => absurd hg (by simp), fun s' hrely' answer henabled => ?_⟩
    have howner : (s'.memory.deviceLocks d).head? = some i := of_decide_eq_true henabled
    refine ⟨some (d, false), fun _ => ?_, ?_⟩
    · have hquiet := (Quiet.refl s').move (i := i) (g := none) fun d' owes hg =>
        absurd hg (by simp)
      refine { hquiet with owns := ?_, held := fun d' owes hg => absurd hg (by simp) }
      rintro d' owes heq
      cases heq
      exact howner
    · exact hQ s' (hrely'.sound hs) (hrely.trans hrely')

open Custody in
/-- Give the lock back. A task that owes the device has settled it. -/
theorem wp_release {d : DeviceId} {owes : Bool} {s : Server} {Q : Unit → Server → Stage → Prop}
    (hsettled : owes = true → Orderly s.log → s.memory.sessions d = none → s.store.Settled d)
    (hQ : ∀ s', s'.store = s.store → s'.memory.sessions = s.memory.sessions → Q () s' none) :
    wp (system cfg) custody i (release d) Q s (some (d, owes)) := by
  refine ⟨none, fun howns => ?_, hQ _ rfl rfl⟩
  have hhead := howns d owes rfl
  refine ⟨List.prefix_refl _, fun h => h, fun d' session hsession => .inl hsession,
    fun d' j hj hj' => ?_, fun d' owes' hg => absurd hg (by simp),
    fun d' _ => ⟨rfl, fun _ _ => .refl d' _⟩,
    fun d' owes' hg hlog hnone => ?_⟩
  · change (Function.update s.memory.deviceLocks d (s.memory.deviceLocks d).tail d').head? = _
    by_cases hd : d' = d
    · subst hd
      rw [hhead, Option.some.injEq] at hj'
      exact absurd hj'.symm hj
    · rwa [Function.update_of_ne hd]
  · cases hg
    rcases owes with _ | _
    · exact .inr (.inr ⟨rfl, hnone, .refl d _⟩)
    · exact .inr (.inl (hsettled rfl hlog hnone))

/-- Acquiring the lock of a device. -/
theorem leads_acquire (d : DeviceId) : Leads cfg i .free (acquire i d) (.locked d) :=
  fun _ hs => wp_acquire hs.sound fun _ hs' _ => ⟨rfl, Context.holds_locked hs' d⟩

/-- Releasing it. -/
theorem leads_release (d : DeviceId) : Leads cfg i (.locked d) (release d) .free := by
  refine fun s hs => wp_release (fun h => absurd h (by decide)) fun s' hstore _ => ⟨rfl, ?_⟩
  exact Context.holds_free (by rw [hstore]; exact hs.sound)

end Steady

end StylyMdm.Runtime
