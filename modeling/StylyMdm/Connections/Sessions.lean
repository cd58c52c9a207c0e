import StylyMdm.Connections.PushSteps

/-!
# Candidates and sessions

The push runtime tests under the lock that a task's socket is the registration candidate or has the
session, and releases slots after the awaits that follow. `Sessions` says what these two tests are
worth: the candidate of a device and an open socket with the session of a device belong to the
newest handler, unless a newer one still waits for the lock. Each turn of a task keeps it
(`Sessions.apply_registerDevice` to `Sessions.apply_answered`), and so does the claim of a socket
that finds nobody in an await after which a slot is released (`Sessions.claim`).

A socket that was superseded can keep its session for a while: the newer one is the candidate from
its `REGISTER` on, but takes the session away only when it gets the lock. Until then the older one
may still get the lock itself. For `handle_device_message` that is harmless, because the test finds
another candidate. For `disconnect_device` it is not, since that one looks at the session only; this
is where the condition on `disconnect_device` comes from.

* `Sessions.evolve` is the rule for a step of the core that claims nothing, `Sessions.apply` the one
  for a turn in the push runtime. Both leave to the single steps only what these really change.
* An exception in the push runtime ends the handler (`exception_not_isOpen`), so nothing more has to
  be known of the session or the candidate that it leaves behind.
-/

namespace StylyMdm.Connections

open Text Py

/-! ### Sessions -/

/-- Where a handler is while its task is in the push runtime. -/
def PushTask.At : PushTask → Point → Prop
  | .idle, _ => True
  | .waiting _, point => point = .receive
  | .handling _, point => point = .receive
  | .disconnecting, point => point = .receive ∨ point = .rejecting ∨ point = .closed
  | .reading, point => point = .receive ∨ point = .rejecting ∨ point = .closed
  | _, point => ∃ versionCode, point = .completing versionCode

/-- What the push runtime's entries of a device say about its handlers. -/
structure Sessions (s : Server) : Prop where
  /-- A task in the push runtime is that of a handler with a device. -/
  task : ∀ ws, s.tasks ws ≠ .idle →
    ∃ h d, s.core.handlers ws = some h ∧ h.deviceId = some d ∧ (s.tasks ws).At h.point
  /-- An open candidate is the newest socket, and is registering. -/
  candidate : ∀ d ws, (s.push d).candidate = some ws →
    ∃ h, s.core.handlers ws = some h ∧ h.deviceId = some d ∧
      (h.isOpen → s.core.Newest d h.claim ∧ (s.tasks ws).registers = true)
  /-- An open socket with the session is the newest one, unless the newest one has not yet had the
  lock. -/
  session : ∀ d ws, (s.push d).session = some ws →
    ∃ h, s.core.handlers ws = some h ∧ h.deviceId = some d ∧
      (h.isOpen → s.core.Newest d h.claim ∨
        ∃ ws', (s.push d).candidate = some ws' ∧ s.tasks ws' = .registering)
  /-- Only the newest socket is in an await after which a slot may be released. -/
  releases : ∀ ws h d, s.core.handlers ws = some h → h.deviceId = some d →
    (s.tasks ws).releases = true → s.core.Newest d h.claim

/-- Without sessions there is nothing to say. -/
theorem Sessions.of_core (core : State) : Sessions { core := core } where
  task ws hne := absurd rfl hne
  candidate d ws hcandidate := absurd hcandidate (by simp)
  session d ws hsession := absurd hsession (by simp)
  releases ws h d _ _ hreleases := absurd hreleases (by simp [PushTask.releases])

/-- A task that registers belongs to an open socket. -/
theorem PushTask.At.isOpen {task : PushTask} {h : Handler} (hat : task.At h.point)
    (hregisters : task.registers = true) : h.isOpen := by
  have hcompleting : ∃ versionCode, h.point = .completing versionCode := by
    cases task <;> first | exact hat | exact absurd hregisters (by simp [PushTask.registers])
  obtain ⟨versionCode, hpoint⟩ := hcompleting
  rw [Handler.isOpen, hpoint]
  simp

section Steps

variable {s s' : Server} {ws : Socket} {h : Handler} {d : DeviceId}

/-- The device of a socket is the one of its handler. -/
theorem deviceOf_eq_some :
    s.deviceOf ws = some d ↔ ∃ h, s.core.handlers ws = some h ∧ h.deviceId = some d := by
  rw [Server.deviceOf, Option.bind_eq_some_iff]

/-- A handler is where its task in the push runtime says. -/
theorem Sessions.task_at (hs : Sessions s) (hhandler : s.core.handlers ws = some h)
    (hne : s.tasks ws ≠ .idle) : (s.tasks ws).At h.point := by
  obtain ⟨g, -, hg, -, hat⟩ := hs.task ws hne
  rw [hhandler, Option.some_inj] at hg
  exact hg ▸ hat

/-- A candidate that is open is the newest socket, and is registering. -/
theorem Sessions.candidate_open (hs : Sessions s) (hhandler : s.core.handlers ws = some h)
    (hopen : h.isOpen) (hcandidate : (s.push d).candidate = some ws) :
    s.core.Newest d h.claim ∧ (s.tasks ws).registers = true := by
  obtain ⟨g, hg, -, hnewest⟩ := hs.candidate d ws hcandidate
  rw [hhandler, Option.some_inj] at hg
  subst hg
  exact hnewest hopen

/-- The socket that owns the device is the newest. -/
theorem Owned.newest_of_ownedBy {s : State} (hs : Owned s) (hhandler : s.handlers ws = some h)
    (hown : (s.devices d).ownedBy ws = true) : s.Newest d h.claim := by
  obtain ⟨c, hc, rfl⟩ := Device.ownedBy_iff.mp hown
  obtain ⟨g, hg, -, hnewest⟩ := hs.owner d c hc
  rw [hhandler, Option.some_inj] at hg
  exact hg ▸ hnewest

/-- A step of the core in which some handlers act, of which those in the push runtime leave it and
end. -/
theorem Sessions.evolve (hs : Sessions s) {acts : Socket → Prop}
    (hcore : Evolves s.core s'.core acts) (hothers : ∀ ws, ¬ acts ws → s'.tasks ws = s.tasks ws)
    (hacts : ∀ ws, acts ws → s'.tasks ws = .idle ∧ s.tasks ws ≠ .registering ∧
      (s.tasks ws = .idle ∨ ∀ h', s'.core.handlers ws = some h' → ¬ h'.isOpen))
    (hcandidate : ∀ d, (s'.push d).candidate = (s.push d).candidate)
    (hsession : ∀ d ws, (s'.push d).session = some ws → (s.push d).session = some ws) :
    Sessions s' where
  task ws hne := by
    have hnot : ¬ acts ws := fun hact => hne (hacts ws hact).1
    rw [hothers ws hnot] at hne ⊢
    obtain ⟨h, d, hhandler, hid, hat⟩ := hs.task ws hne
    exact ⟨h, d, hcore.others ws h hnot hhandler, hid, hat⟩
  candidate d ws hws := by
    rw [hcandidate] at hws
    obtain ⟨h, hhandler, hid, hopen⟩ := hs.candidate d ws hws
    obtain ⟨h', hhandler', hid', hclaim, hopen'⟩ := hcore.after ws h d hhandler hid
    refine ⟨h', hhandler', hid', fun hstill => ?_⟩
    obtain ⟨hnewest, hregisters⟩ := hopen (hopen' hstill)
    have hnot : ¬ acts ws := by
      intro hact
      rcases (hacts ws hact).2.2 with hidle | hend
      · rw [hidle] at hregisters
        exact absurd hregisters (by simp [PushTask.registers])
      · exact hend h' hhandler' hstill
    rw [hcore.newest, hclaim, hothers ws hnot]
    exact ⟨hnewest, hregisters⟩
  session d ws hws := by
    obtain ⟨h, hhandler, hid, hopen⟩ := hs.session d ws (hsession d ws hws)
    obtain ⟨h', hhandler', hid', hclaim, hopen'⟩ := hcore.after ws h d hhandler hid
    refine ⟨h', hhandler', hid', fun hstill => ?_⟩
    rw [hcore.newest, hclaim, hcandidate]
    rcases hopen (hopen' hstill) with hnewest | ⟨ws', hws', hregistering⟩
    · exact .inl hnewest
    · refine .inr ⟨ws', hws', ?_⟩
      rw [hothers ws' fun hact => (hacts ws' hact).2.1 hregistering]
      exact hregistering
  releases ws h' d hhandler' hid' hreleases := by
    have hnot : ¬ acts ws := by
      intro hact
      rw [(hacts ws hact).1] at hreleases
      exact absurd hreleases (by simp [PushTask.releases])
    obtain ⟨h, hhandler, hid, hclaim⟩ := hcore.before ws h' d hhandler' hid'
    rw [hothers ws hnot] at hreleases
    rw [hcore.newest, ← hclaim]
    exact hs.releases ws h d hhandler hid hreleases

/-- A turn of a task in the push runtime. -/
theorem Sessions.apply (hs : Sessions s) (hhandler : s.core.handlers ws = some h)
    (hid : h.deviceId = some d) {turn : PushTurn}
    (hturn : turn.Orderly ws (s.core.devices d) (s.push d) (s.tasks ws))
    (hat : turn.task.At h.point) (hreleases : turn.task.releases = true → s.core.Newest d h.claim)
    (hkept : turn.push.candidate = some ws → h.isOpen → turn.task.registers = true)
    (hsession : ∀ ws', turn.push.session = some ws' → ws' = ws ∧ s.core.Newest d h.claim ∨
      (s.push d).session = some ws' ∧
        (s.tasks ws = .registering → (s.push d).candidate ≠ some ws)) :
    Sessions (s.apply ws d turn) := by
  have hpush : (s.apply ws d turn).push d = turn.push := Function.update_self ..
  have hpush' : ∀ d', d' ≠ d → (s.apply ws d turn).push d' = s.push d' :=
    fun d' hne => Function.update_of_ne hne ..
  have htask : (s.apply ws d turn).tasks ws = turn.task := Function.update_self ..
  have htask' : ∀ ws', ws' ≠ ws → (s.apply ws d turn).tasks ws' = s.tasks ws' :=
    fun ws' hne => Function.update_of_ne hne ..
  -- a candidate of the device after the turn was one before
  have hbefore : ∀ d' ws', ((s.apply ws d turn).push d').candidate = some ws' →
      (s.push d').candidate = some ws' := by
    intro d' ws' hws'
    rcases eq_or_ne d' d with rfl | hne
    · rw [hpush] at hws'
      rcases hturn.candidate with hsame | ⟨-, hnone⟩
      · rwa [hsame] at hws'
      · rw [hnone] at hws'
        exact absurd hws' (by simp)
    · rwa [hpush' d' hne] at hws'
  refine ⟨?_, ?_, ?_, ?_⟩
  · intro ws' hne
    rcases eq_or_ne ws' ws with rfl | hws'
    · rw [htask]
      exact ⟨h, d, hhandler, hid, hat⟩
    · rw [htask' ws' hws'] at hne ⊢
      exact hs.task ws' hne
  · intro d' ws' hws'
    obtain ⟨g, hg, hd, hopen⟩ := hs.candidate d' ws' (hbefore d' ws' hws')
    refine ⟨g, hg, hd, fun hstill => ⟨(hopen hstill).1, ?_⟩⟩
    rcases eq_or_ne ws' ws with rfl | hne
    · rw [hhandler, Option.some_inj] at hg
      subst hg
      rw [hid, Option.some_inj] at hd
      subst hd
      rw [hpush] at hws'
      rw [htask]
      exact hkept hws' hstill
    · rw [htask' ws' hne]
      exact (hopen hstill).2
  · intro d' ws' hws'
    rcases eq_or_ne d' d with rfl | hne
    · rw [hpush] at hws'
      rcases hsession ws' hws' with ⟨rfl, hnewest⟩ | ⟨hbefore', hfree⟩
      · exact ⟨h, hhandler, hid, fun _ => .inl hnewest⟩
      · obtain ⟨g, hg, hd, hopen⟩ := hs.session d' ws' hbefore'
        refine ⟨g, hg, hd, fun hstill => ?_⟩
        rcases hopen hstill with hnewest | ⟨b, hb, hregistering⟩
        · exact .inl hnewest
        · have hne : b ≠ ws := by
            rintro rfl
            exact hfree hregistering hb
          refine .inr ⟨b, ?_, (htask' b hne).trans hregistering⟩
          rw [hpush]
          rcases hturn.candidate with hsame | ⟨hown, -⟩
          · rw [hsame, hb]
          · rw [hb, Option.some_inj] at hown
            exact absurd hown hne
    · rw [hpush' d' hne] at hws' ⊢
      obtain ⟨g, hg, hd, hopen⟩ := hs.session d' ws' hws'
      refine ⟨g, hg, hd, fun hstill => ?_⟩
      rcases hopen hstill with hnewest | ⟨b, hb, hregistering⟩
      · exact .inl hnewest
      · refine .inr ⟨b, hb, (htask' b ?_).trans hregistering⟩
        -- the candidate of another device is another socket
        rintro rfl
        obtain ⟨g', hg', hd', -⟩ := hs.candidate d' b hb
        rw [hhandler, Option.some_inj] at hg'
        rw [← hg', hid, Option.some_inj] at hd'
        exact hne hd'.symm
  · intro ws' g d' hg hd hreleases'
    rcases eq_or_ne ws' ws with rfl | hne
    · change s.core.handlers ws' = some g at hg
      rw [hhandler, Option.some_inj] at hg
      subst hg
      rw [hid, Option.some_inj] at hd
      subst hd
      rw [htask] at hreleases'
      exact hreleases hreleases'
    · rw [htask' ws' hne] at hreleases'
      exact hs.releases ws' g d' hg hd hreleases'

/-- A socket claims the device. -/
theorem Sessions.claim (hs : Sessions s) (hcore : Owned s.core)
    (hhandler : s.core.handlers ws = some h) (hid : h.deviceId = none) (hidle : s.tasks ws = .idle)
    {turn : Turn} (hturn : turn.Claims ws s.core.time d) {saved : Bool}
    (hcompleting : saved = true → ∃ versionCode, turn.handler.point = .completing versionCode)
    (hquiet : ∀ ws' h', s.core.handlers ws' = some h' → h'.deviceId = some d →
      (s.tasks ws').releases = false ∧ (saved = true ∨ ¬ h'.isOpen))
    (hhandlers : s'.core = s.core.apply ws d turn)
    (hpush : ∀ d', (s'.push d').session = (s.push d').session ∧
      (s'.push d').candidate = if d' = d ∧ saved then some ws else (s.push d').candidate)
    (htask : s'.tasks ws = if saved then .registering else .idle)
    (htasks : ∀ ws', ws' ≠ ws → s'.tasks ws' = s.tasks ws') : Sessions s' := by
  -- the socket had no device before
  have hnew : ∀ ws' g d', s.core.handlers ws' = some g → g.deviceId = some d' → ws' ≠ ws := by
    rintro ws' g d' hg hd rfl
    rw [hhandler, Option.some_inj] at hg
    rw [← hg, hid] at hd
    exact absurd hd (by simp)
  have hself : s'.core.handlers ws = some turn.handler := by
    rw [hhandlers, State.apply_handlers_self]
  have hother : ∀ ws', ws' ≠ ws → s'.core.handlers ws' = s.core.handlers ws' := by
    intro ws' hne
    rw [hhandlers, State.apply_handlers_of_ne _ _ _ _ hne]
  have hnewest : ∀ d' n, d' ≠ d → (s'.core.Newest d' n ↔ s.core.Newest d' n) := by
    intro d' n hne
    rw [hhandlers]
    exact hturn.newest_iff hhandler hid hne
  refine ⟨?_, ?_, ?_, ?_⟩
  · intro ws' hne
    rcases eq_or_ne ws' ws with rfl | hws'
    · rw [htask] at hne ⊢
      rcases saved with _ | _
      · exact absurd rfl hne
      · exact ⟨_, d, hself, hturn.deviceId, hcompleting rfl⟩
    · rw [htasks ws' hws'] at hne ⊢
      rw [hother ws' hws']
      exact hs.task ws' hne
  · intro d' ws' hws'
    rw [(hpush d').2] at hws'
    split_ifs at hws' with hsaved
    · rw [Option.some_inj] at hws'
      subst hws'
      obtain ⟨rfl, hsaved⟩ := hsaved
      refine ⟨_, hself, hturn.deviceId, fun _ => ⟨?_, ?_⟩⟩
      · rw [hhandlers, hturn.claim]
        exact hturn.newest hcore
      · rw [htask, if_pos hsaved]
        rfl
    · obtain ⟨g, hg, hd, hopen⟩ := hs.candidate d' ws' hws'
      have hne := hnew ws' g d' hg hd
      refine ⟨g, by rw [hother ws' hne]; exact hg, hd, fun hstill => ?_⟩
      rcases eq_or_ne d' d with rfl | hd'
      · rcases (hquiet ws' g hg hd).2 with hsaved' | hend
        · exact absurd ⟨rfl, hsaved'⟩ hsaved
        · exact absurd hstill hend
      · rw [hnewest d' _ hd', htasks ws' hne]
        exact hopen hstill
  · intro d' ws' hws'
    rw [(hpush d').1] at hws'
    obtain ⟨g, hg, hd, hopen⟩ := hs.session d' ws' hws'
    have hne := hnew ws' g d' hg hd
    refine ⟨g, by rw [hother ws' hne]; exact hg, hd, fun hstill => ?_⟩
    rcases eq_or_ne d' d with rfl | hd'
    · rcases (hquiet ws' g hg hd).2 with hsaved | hend
      · exact .inr ⟨ws, by rw [(hpush d').2, if_pos ⟨rfl, hsaved⟩], by rw [htask, if_pos hsaved]⟩
      · exact absurd hstill hend
    · rcases hopen hstill with hnew' | ⟨b, hb, hregistering⟩
      · exact .inl ((hnewest d' _ hd').mpr hnew')
      · have hb' : b ≠ ws := by
          rintro rfl
          rw [hidle] at hregistering
          exact absurd hregistering (by simp)
        refine .inr ⟨b, ?_, (htasks b hb').trans hregistering⟩
        rw [(hpush d').2, if_neg fun hand => hd' hand.1]
        exact hb
  · intro ws' g d' hg hd hreleases
    have hne : ws' ≠ ws := by
      rintro rfl
      rw [htask] at hreleases
      rcases saved with _ | _ <;> exact absurd hreleases (by simp [PushTask.releases])
    rw [hother ws' hne] at hg
    rw [htasks ws' hne] at hreleases
    rcases eq_or_ne d' d with rfl | hd'
    · rw [(hquiet ws' g hg hd).1] at hreleases
      exact absurd hreleases (by simp)
    · exact (hnewest d' _ hd').mpr (hs.releases ws' g d' hg hd hreleases)

/-! ### The steps of the server -/

/-- What every state of the server keeps. -/
structure Server.Sound (s : Server) : Prop where
  owned : Owned s.core
  sessions : Sessions s

/-- The server at the start. -/
theorem Server.Sound.initial : Server.Sound {} where
  owned := Owned.initial
  sessions := .of_core {}

/-- An open candidate owns the device: it is the newest socket. -/
theorem Server.Sound.registrable (hs : s.Sound) (hhandler : s.core.handlers ws = some h)
    (hid : h.deviceId = some d) (hopen : h.isOpen) (hcandidate : (s.push d).candidate = some ws) :
    (s.push d).registrable ws (s.core.devices d) = true := by
  have hnewest : s.core.Newest d h.claim :=
    (hs.sessions.candidate_open hhandler hopen hcandidate).1
  obtain ⟨c, hc, hws⟩ := hs.owned.kept ws h d hhandler hid hnewest hopen.2
  exact PushDevice.registrable_iff.mpr ⟨hcandidate, Device.ownedBy_iff.mpr ⟨c, hc, hws⟩⟩

/-- The candidate of an open handler is registering. -/
theorem Sessions.not_candidate (hs : Sessions s) (hhandler : s.core.handlers ws = some h)
    (hopen : h.isOpen) (hregisters : (s.tasks ws).registers = false) :
    (s.push d).candidate ≠ some ws := by
  intro hcandidate
  rw [(hs.candidate_open hhandler hopen hcandidate).2] at hregisters
  exact absurd hregisters (by simp)

/-- A turn keeps what there is to know of the registrations. -/
theorem Owned.push (hs : Owned s.core) {turn : PushTurn}
    (hturn : turn.Orderly ws (s.core.devices d) (s.push d) (s.tasks ws)) :
    Owned (s.apply ws d turn).core := by
  refine hs.of_connections rfl le_rfl fun d' => ?_
  rcases eq_or_ne d' d with rfl | hne
  · change (Function.update s.core.devices d' turn.device d').connection.map _ = _
    rw [Function.update_self]
    exact hturn.connection
  · change (Function.update s.core.devices d turn.device d').connection.map _ = _
    rw [Function.update_of_ne hne]

/-- `register_device` gets the lock. -/
theorem Sessions.apply_registerDevice (hs : s.Sound) (hhandler : s.core.handlers ws = some h)
    (hid : h.deviceId = some d) (htask : s.tasks ws = .registering) :
    Sessions (s.apply ws d (registerDevice ws (s.core.devices d) (s.push d))) := by
  have hat := hs.sessions.task_at hhandler (by simp [htask])
  have hopen : h.isOpen := hat.isOpen (by rw [htask]; rfl)
  have horderly : (registerDevice ws (s.core.devices d) (s.push d)).Orderly ws (s.core.devices d)
      (s.push d) .registering := orderly_registerDevice
  rw [← htask] at horderly
  rw [htask] at hat
  rw [registerDevice] at horderly ⊢
  by_cases hregistrable : (s.push d).registrable ws (s.core.devices d) = true
  · have hnewest : s.core.Newest d h.claim :=
      hs.owned.newest_of_ownedBy hhandler (PushDevice.registrable_iff.mp hregistrable).2
    simp only [hregistrable, Bool.not_true, Bool.false_eq_true, if_false] at horderly ⊢
    split_ifs at horderly ⊢ with hprevious
    · exact hs.sessions.apply hhandler hid horderly hat (fun _ => hnewest) (fun _ _ => rfl)
        (by simp)
    · refine hs.sessions.apply hhandler hid horderly hat (fun _ => hnewest) (fun _ _ => rfl)
        fun ws' hsession => .inl ⟨?_, hnewest⟩
      rw [hsession] at hprevious
      simpa using hprevious
  · have hcandidate : (s.push d).candidate ≠ some ws := fun hcandidate =>
      hregistrable (hs.registrable hhandler hid hopen hcandidate)
    simp only [hregistrable, Bool.not_false, if_true] at horderly ⊢
    exact hs.sessions.apply hhandler hid horderly trivial (by simp [PushTask.releases])
      (fun hcandidate' => absurd hcandidate' hcandidate)
      fun ws' hsession => .inr ⟨hsession, fun _ => hcandidate⟩

/-- `handle_device_message` gets the lock. -/
theorem Sessions.apply_handleDeviceMessage (hs : Sessions s)
    (hhandler : s.core.handlers ws = some h) (hid : h.deviceId = some d) {frame : Frame}
      (htask : s.tasks ws = .waiting frame) :
    Sessions (s.apply ws d (handleDeviceMessage ws (s.core.devices d) (s.push d) frame)) := by
  have hreceive : h.point = .receive := by
    have hat := hs.task_at hhandler (by simp [htask])
    rwa [htask] at hat
  have hopen : h.isOpen := by
    rw [Handler.isOpen, hreceive]
    simp
  have hcandidate : (s.push d).candidate ≠ some ws :=
    hs.not_candidate hhandler hopen (by rw [htask]; rfl)
  have hregistering : s.tasks ws ≠ .registering := by simp [htask]
  rw [handleDeviceMessage]
  split_ifs with hstale
  · exact hs.apply hhandler hid (.of_candidate rfl rfl fun _ => rfl) trivial
      (by simp [PushTask.releases]) (fun hcandidate' => absurd hcandidate' hcandidate)
      fun ws' hsession => .inr ⟨hsession, fun hcontra => absurd hcontra hregistering⟩
  · rw [Bool.or_eq_true, not_or, decide_eq_true_iff, not_not] at hstale
    -- no other socket is the candidate, so the session is that of the newest socket
    have hnewest : s.core.Newest d h.claim := by
      obtain ⟨g, hg, -, hsession⟩ := hs.session d ws hstale.2
      rw [hhandler, Option.some_inj] at hg
      subst hg
      rcases hsession hopen with hnewest | ⟨ws', hws', -⟩
      · exact hnewest
      · refine absurd hstale.1 (not_not.mpr ?_)
        rw [hws']
        have hne : ws' ≠ ws := fun heq => hcandidate (heq ▸ hws')
        simpa using hne
    exact hs.apply hhandler hid (.of_candidate rfl rfl fun _ => rfl) hreceive (fun _ => hnewest)
      (fun hcandidate' => absurd hcandidate' hcandidate)
      fun ws' hsession => .inr ⟨hsession, fun hcontra => absurd hcontra hregistering⟩

/-- `disconnect_device` gets the lock. -/
theorem Sessions.apply_disconnectDevice (hs : Sessions s) (hhandler : s.core.handlers ws = some h)
    (hid : h.deviceId = some d) (htask : s.tasks ws = .disconnecting)
    (hquiet : (s.push d).session = some ws → s.core.Newest d h.claim) :
    Sessions (s.apply ws d (disconnectDevice ws (s.core.devices d) (s.push d))) := by
  have hat : PushTask.At .disconnecting h.point := by
    have hat := hs.task_at hhandler (by simp [htask])
    rwa [htask] at hat
  have hregistering : s.tasks ws ≠ .registering := by simp [htask]
  have horderly : (disconnectDevice ws (s.core.devices d) (s.push d)).Orderly ws (s.core.devices d)
      (s.push d) .disconnecting := orderly_disconnectDevice
  rw [← htask] at horderly
  rw [disconnectDevice] at horderly ⊢
  split_ifs at horderly ⊢ with hsession hown
  · refine hs.apply hhandler hid horderly trivial (by simp [PushTask.releases])
      (fun hcandidate => absurd hcandidate PushDevice.dropCandidate_ne) fun ws' hsession' => ?_
    exact .inr ⟨by simpa using hsession', fun hcontra => absurd hcontra hregistering⟩
  all_goals
    rw [not_not] at hsession
    refine hs.apply hhandler hid horderly hat (fun _ => hquiet hsession) ?_ ?_
    · intro hcandidate
      rw [PushDevice.dropSession_candidate] at hcandidate
      exact absurd hcandidate PushDevice.dropCandidate_ne
    · intro ws' hsession'
      obtain ⟨hbefore, hne⟩ := PushDevice.dropSession_session hsession'
      rw [PushDevice.dropCandidate_session, hsession, Option.some_inj] at hbefore
      exact absurd hbefore.symm hne

/-- A turn that does nothing. -/
theorem Server.apply_self (s : Server) (ws : Socket) (d : DeviceId) :
    s.apply ws d { device := s.core.devices d, push := s.push d, task := s.tasks ws } = s := by
  simp only [Server.apply, Function.update_eq_self]

/-- An await in the push runtime ends. -/
theorem Sessions.apply_answered (hs : s.Sound) (hhandler : s.core.handlers ws = some h)
    (hid : h.deviceId = some d) (released : Option Str) :
    Sessions (s.apply ws d
      (answered ws (s.core.devices d) (s.push d) released (s.tasks ws))) := by
  have hat : s.tasks ws ≠ .idle → (s.tasks ws).At h.point := hs.sessions.task_at hhandler
  have hreleases := hs.sessions.releases ws h d hhandler hid
  have horderly : (answered ws (s.core.devices d) (s.push d) released (s.tasks ws)).Orderly ws
      (s.core.devices d) (s.push d) (s.tasks ws) := orderly_answered
  -- outside of `register_device` an open socket is not the candidate
  have hfree : (s.tasks ws).registers = false → (s.push d).candidate = some ws → h.isOpen →
      False := by
    intro hregisters hcandidate hopen
    exact hs.sessions.not_candidate hhandler hopen hregisters hcandidate
  have hself := s.apply_self ws d
  generalize htask : s.tasks ws = task at *
  -- before the lock is taken nobody relies on the task
  have hkeep : task ≠ .registering → ∀ ws', (s.push d).session = some ws' →
      ws' = ws ∧ s.core.Newest d h.claim ∨ (s.push d).session = some ws' ∧
        (s.tasks ws = .registering → (s.push d).candidate ≠ some ws) := by
    intro hne ws' hsession
    exact .inr ⟨hsession, fun hcontra => absurd (htask.symm.trans hcontra) hne⟩
  replace horderly : (answered ws (s.core.devices d) (s.push d) released task).Orderly ws
      (s.core.devices d) (s.push d) (s.tasks ws) := by
    rw [htask]
    exact horderly
  cases task with
  | replacing =>
    refine hs.sessions.apply hhandler hid horderly (hat (by simp))
      (by simp [answered, PushTask.releases]) (fun _ _ => rfl) fun ws' hsession => ?_
    exact hkeep (by simp) ws' (by simpa [answered] using hsession)
  | preparing =>
    rw [answered] at horderly ⊢
    by_cases hregistrable : (s.push d).registrable ws (s.core.devices d) = true
    · have hnewest : s.core.Newest d h.claim :=
        hs.owned.newest_of_ownedBy hhandler (PushDevice.registrable_iff.mp hregistrable).2
      simp only [hregistrable, Bool.not_true, Bool.false_eq_true, if_false] at horderly ⊢
      exact hs.sessions.apply hhandler hid horderly (hat (by simp)) (by simp [PushTask.releases])
        (fun _ _ => rfl) fun ws' hsession => .inl ⟨(Option.some.inj hsession).symm, hnewest⟩
    · have hcandidate : h.isOpen → (s.push d).candidate ≠ some ws := fun hopen hcandidate =>
        hregistrable (hs.registrable hhandler hid hopen hcandidate)
      simp only [hregistrable, Bool.not_false, if_true] at horderly ⊢
      exact hs.sessions.apply hhandler hid horderly trivial (by simp [PushTask.releases])
        (fun hcandidate' hopen => absurd hcandidate' (hcandidate hopen)) (hkeep (by simp))
  | acknowledging =>
    rw [answered] at horderly ⊢
    by_cases hown : (s.core.devices d).ownedBy ws = true
    · simp only [hown, Bool.not_true, Bool.false_eq_true, if_false] at horderly ⊢
      exact hs.sessions.apply hhandler hid horderly trivial (by simp [PushTask.releases])
        (fun hcandidate => absurd hcandidate PushDevice.dropCandidate_ne)
        fun ws' hsession => hkeep (by simp) ws' (by simpa using hsession)
    · simp only [hown, Bool.not_false, if_true] at horderly ⊢
      refine hs.sessions.apply hhandler hid horderly trivial (by simp [PushTask.releases])
        (fun hcandidate hopen => ?_) (hkeep (by simp))
      exact absurd (PushDevice.registrable_iff.mp (hs.registrable hhandler hid hopen hcandidate)).2
        hown
  | handling frame =>
    refine hs.sessions.apply hhandler hid horderly (hat (by simp)) hreleases
      (fun hcandidate hopen => ?_) fun ws' hsession => ?_
    · exact (hfree rfl (by simpa [answered] using hcandidate) hopen).elim
    · exact hkeep (by simp) ws' (by simpa [answered] using hsession)
  | reading =>
    refine hs.sessions.apply hhandler hid horderly trivial (by simp [answered, PushTask.releases])
      (fun hcandidate hopen => ?_) fun ws' hsession => ?_
    · exact (hfree rfl (by simpa [answered] using hcandidate) hopen).elim
    · exact hkeep (by simp) ws' (by simpa [answered] using hsession)
  | _ =>
    change Sessions (s.apply ws d { device := s.core.devices d, push := s.push d, task := _ })
    rw [hself]
    exact hs.sessions

/-- A task that releases nothing enters the push runtime, or leaves it. -/
theorem Sessions.goto (hs : Sessions s) (hhandler : s.core.handlers ws = some h)
    (hid : h.deviceId = some d) {task : PushTask} (hregisters : (s.tasks ws).registers = false)
    (hat : task.At h.point) (hreleases : task.releases = false) : Sessions (s.goto ws task) := by
  have hgoto : s.goto ws task = s.apply ws d
      { device := s.core.devices d, push := s.push d, task := task } := by
    simp only [Server.goto, Server.apply, Function.update_eq_self]
  rw [hgoto]
  refine hs.apply hhandler hid (.of_candidate rfl rfl fun _ => rfl) hat
    (fun hreleases' => absurd (hreleases.symm.trans hreleases') (by simp))
    (fun hcandidate hopen => ?_) fun ws' hsession => .inr ⟨hsession, fun hcontra => ?_⟩
  · exact absurd hcandidate (hs.not_candidate hhandler hopen hregisters)
  · rw [hcontra] at hregisters
    exact absurd hregisters (by simp [PushTask.registers])

/-! #### Exceptions -/

/-- After the `finally` block a socket is not open. -/
theorem leave_not_isOpen (ws : Socket) (dev : Device) (h : Handler) :
    ¬ (leave ws dev h).handler.isOpen := by
  rw [leave]
  by_cases hown : dev.ownedBy ws = true
  · simp only [hown, Bool.not_true, Bool.false_eq_true, if_false]
    split
    · exact fun hopen => hopen.2 rfl
    · split_ifs
      · exact fun hopen => hopen.2 rfl
      · exact fun hopen => hopen.1 rfl
  · simp only [hown, Bool.not_false, if_true]
    exact fun hopen => hopen.2 rfl

/-- An exception in the push runtime ends the handler. -/
theorem exception_not_isOpen (hhandler : s.core.handlers ws = some h) (hid : h.deviceId = some d)
    (hat : (s.tasks ws).At h.point) (hraises : (s.tasks ws).raises = true) {h' : Handler}
    (hhandler' : (s.core.step (s.exception ws)).handlers ws = some h') : ¬ h'.isOpen := by
  rw [Server.exception, hhandler] at hhandler'
  by_cases hreceives : h.receives = true
  · have hreceive : h.point = .receive := by
      rw [Handler.receives] at hreceives
      split at hreceives
      · assumption
      · exact absurd hreceives (by simp)
    simp only [Option.any_some, hreceives, if_true, State.step, hhandler, hreceive, hid,
      State.apply_handlers_self, Option.some_inj] at hhandler'
    exact hhandler' ▸ leave_not_isOpen ws _ h
  · simp only [Option.any_some, hreceives, if_false, State.step, hhandler, hid,
      State.apply_handlers_self, Option.some_inj, Bool.false_eq_true] at hhandler'
    subst hhandler'
    have hpoint : (∃ versionCode, h.point = .completing versionCode) ∨ h.point = .rejecting ∨
        h.point = .closed := by
      have hnot : h.point ≠ .receive := fun hpoint => hreceives (by rw [Handler.receives, hpoint])
      cases htask : s.tasks ws <;> rw [htask] at hat hraises
      all_goals
        first
        | exact .inl hat
        | exact absurd hat hnot
        | exact .inr (hat.resolve_left hnot)
        | exact absurd hraises (by simp [PushTask.raises])
    rcases hpoint with ⟨versionCode, hpoint⟩ | hpoint | hpoint
    · rw [hpoint]
      exact leave_not_isOpen ws _ h
    · rw [hpoint]
      exact leave_not_isOpen ws _ h
    · rw [hpoint, resume]
      exact fun hopen => hopen.2 hpoint

/-- An await in the push runtime raises. -/
theorem Server.Sound.raised (hs : s.Sound) (hhandler : s.core.handlers ws = some h)
    (hid : h.deviceId = some d) (hraises : (s.tasks ws).raises = true) :
    Server.Sound
      { core := s.core.step (s.exception ws)
        push := Function.update s.push d (Connections.raised ws (s.push d) (s.tasks ws))
        tasks := Function.update s.tasks ws .idle } := by
  have hat : (s.tasks ws).At h.point := by
    refine hs.sessions.task_at hhandler fun htask => ?_
    rw [htask] at hraises
    exact absurd hraises (by simp [PushTask.raises])
  have hclaims : s.core.claims (s.exception ws) = none := by
    rw [Server.exception]
    split_ifs <;> rfl
  have hsocket : (s.exception ws).socket? = some ws := by
    rw [Server.exception]
    split_ifs <;> rfl
  have hrestart : ∀ registry, s.exception ws ≠ .restart registry := by
    intro registry heq
    rw [heq] at hsocket
    exact absurd hsocket (by simp [Label.socket?])
  have hpush : ∀ d',
      (Function.update s.push d (Connections.raised ws (s.push d) (s.tasks ws)) d').candidate =
        (s.push d').candidate ∧
      ∀ ws', (Function.update s.push d
          (Connections.raised ws (s.push d) (s.tasks ws)) d').session = some ws' →
        (s.push d').session = some ws' := by
    intro d'
    rcases eq_or_ne d' d with rfl | hne
    · rw [Function.update_self]
      cases s.tasks ws with
      | acknowledging =>
        exact ⟨PushDevice.dropSession_candidate, fun ws' h => (PushDevice.dropSession_session h).1⟩
      | _ => exact ⟨rfl, fun _ => id⟩
    · rw [Function.update_of_ne hne]
      exact ⟨rfl, fun _ => id⟩
  refine ⟨hs.owned.step _ fun _ _ _ hcontra => ?_, hs.sessions.evolve
    (s.core.evolves _ hclaims hrestart) (fun ws' hnot => ?_) (fun ws' hact => ?_)
    (fun d' => (hpush d').1) fun d' => (hpush d').2⟩
  · rw [hclaims] at hcontra
    exact absurd hcontra (by simp)
  · refine Function.update_of_ne (fun heq => hnot ?_) _ _
    rw [heq]
    exact hsocket
  · rw [hsocket, Option.some_inj] at hact
    subst hact
    refine ⟨Function.update_self .., fun hcontra => ?_, .inr fun h' hhandler' => ?_⟩
    · rw [hcontra] at hraises
      exact absurd hraises (by simp [PushTask.raises])
    · exact exception_not_isOpen hhandler hid hat hraises hhandler'

end Steps

end StylyMdm.Connections
