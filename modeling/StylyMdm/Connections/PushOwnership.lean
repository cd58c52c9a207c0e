import StylyMdm.Connections.Sessions

/-!
# Which socket a device belongs to, with the push runtime

A superseded socket changes nothing of its device and releases no slot of it, as long as no socket
registers during the awaits of `Server.Undisturbed`: those of the handler between a test of its
ownership and what it does because of it, and those of the push runtime after which a slot may be
released.

`Server.Sound` has the invariant of the handlers (`Owned`) and that of the push runtime
(`Sessions`). `Server.Sound.step` goes through the labels; `Server.Sound.superseded` reads off it
that a superseded socket is in none of the awaits after which a slot is released, so that its turns
are orderly ones without the ownership. `device_belongs_to_newest` says both for every run.

Of the two runs that break the condition, one deletes the registration of the new socket in the
`finally` block of the old one, after the admins were told of a verified self-update. The other one
releases the slot of a job for a frame of the old socket, whose handling was waiting for the store
when the device registered again. The run that meets the condition has the same frame, but it still
waits for the lock at that moment.
-/

namespace StylyMdm.Connections

open Text Py

section Steps

variable {s : Server} {ws : Socket} {d : DeviceId}

/-! ### The condition -/

/-- No other socket registers for a device while one is in an await between a test and what it does
because of it, in the handler or in the push runtime; a `REGISTER` whose record cannot be saved
finds no open socket of the device; and no superseded socket gets the lock of `disconnect_device`
while it still has the session. -/
structure Server.Undisturbed (s : Server) (label : ServerLabel) : Prop where
  claim : ∀ claim ws d saved, label = .core claim → s.blocked claim = false →
    s.core.claims claim = some (ws, d, saved) → ∀ ws' h', s.core.handlers ws' = some h' →
    h'.deviceId = some d →
      h'.between = false ∧ (s.tasks ws').releases = false ∧ (saved = true ∨ ¬ h'.isOpen)
  disconnect : ∀ ws h d, label = .locked ws → s.tasks ws = .disconnecting →
    s.core.handlers ws = some h → h.deviceId = some d → (s.push d).session = some ws →
      s.core.Newest d h.claim

/-- A step of the handlers and timers. -/
theorem Server.Sound.stepCore (hs : s.Sound) (label : Label) (hblocked : s.blocked label = false)
    (hquiet : s.Undisturbed (.core label)) : (s.stepCore label).Sound := by
  have hcore : Owned (s.core.step label) := by
    refine hs.owned.step label fun ws d saved hclaims ws' h' hg hd => ?_
    exact (hquiet.claim label ws d saved rfl hblocked hclaims ws' h' hg hd).1
  have hidle : ∀ ws, label.socket? = some ws → s.tasks ws = .idle := by
    intro ws hsocket
    rw [Server.blocked, hsocket] at hblocked
    simpa using hblocked
  -- a claim adds a candidate if the record is saved
  have hclaimed : ∀ {ws d saved}, s.core.claims label = some (ws, d, saved) → ∀ s' : Server,
      s'.core = s.core.step label →
      (∀ d', (s'.push d').session = (s.push d').session ∧
        (s'.push d').candidate = if d' = d ∧ saved then some ws else (s.push d').candidate) →
      (s'.tasks ws = if saved then .registering else .idle) →
      (∀ ws', ws' ≠ ws → s'.tasks ws' = s.tasks ws') → Sessions s' := by
    intro ws d saved hclaims s' hstep hpush htask htasks
    obtain ⟨h, turn, hhandler, hid, hsocket, heq, hturn, hcompleting⟩ := State.step_claims hclaims
    exact hs.sessions.claim hs.owned hhandler hid (hidle ws hsocket) hturn hcompleting
      (fun ws' h' hg hd => (hquiet.claim label ws d saved rfl hblocked hclaims ws' h' hg hd).2)
      (hstep.trans heq) hpush htask htasks
  rw [Server.stepCore.eq_def]
  split
  · exact ⟨hcore, .of_core _⟩
  · rename_i hrestart
    split
    · rename_i ws d hclaims
      refine ⟨hcore, hclaimed hclaims _ rfl (fun d' => ?_) ?_ fun ws' hne => ?_⟩
      · rcases eq_or_ne d' d with rfl | hne
        · simp
        · simp [hne]
      · simp
      · simp [hne]
    · rename_i hclaims
      refine ⟨hcore, ?_⟩
      rcases hcase : s.core.claims label with _ | ⟨ws, d, saved⟩
      · refine hs.sessions.evolve (s.core.evolves label hcase hrestart) (fun _ _ => rfl)
          (fun ws hact => ?_) (fun _ => rfl) fun _ _ => id
        have htask := hidle ws hact
        exact ⟨htask, by simp [htask], .inl htask⟩
      · obtain rfl : saved = false := by
          rcases saved with _ | _
          · rfl
          · exact absurd hcase (hclaims ws d)
        obtain ⟨h, turn, -, -, hsocket, -⟩ := State.step_claims hcase
        exact hclaimed hcase _ rfl (fun d' => by simp) (hidle ws hsocket) fun _ _ => rfl

/-- **One step.** -/
theorem Server.Sound.step (hs : s.Sound) (label : ServerLabel) (hquiet : s.Undisturbed label) :
    (s.step label).Sound := by
  cases label with
  | core label =>
    rw [Server.step]
    split_ifs with hblocked
    · exact hs
    · exact hs.stepCore label (by simpa using hblocked) hquiet
  | frame ws frame =>
    rw [Server.step]
    split
    · exact hs
    · rename_i h hhandler
      split_ifs with hmay
      · obtain ⟨d, hid⟩ := Option.isSome_iff_exists.mp hmay.2.2
        refine ⟨hs.owned, hs.sessions.goto hhandler hid (by rw [hmay.1]; rfl) ?_ rfl⟩
        exact Handler.receives_iff.mp hmay.2.1
      · exact hs
  | disconnect ws =>
    rw [Server.step]
    split
    · exact hs
    · rename_i h hhandler
      split_ifs with hmay
      · obtain ⟨d, hid⟩ := Option.isSome_iff_exists.mp hmay.2.2
        refine ⟨hs.owned, hs.sessions.goto hhandler hid (by rw [hmay.1]; rfl) ?_ rfl⟩
        exact Handler.closes_iff.mp hmay.2.1
      · exact hs
  | locked ws =>
    rw [Server.step]
    split
    · exact hs
    · rename_i d hdevice
      obtain ⟨h, hhandler, hid⟩ := deviceOf_eq_some.mp hdevice
      refine ⟨hs.owned.push orderly_locked, ?_⟩
      have hself := s.apply_self ws d
      cases htask : s.tasks ws with
      | registering => exact .apply_registerDevice hs hhandler hid htask
      | waiting frame => exact hs.sessions.apply_handleDeviceMessage hhandler hid htask
      | disconnecting =>
        exact hs.sessions.apply_disconnectDevice hhandler hid htask
          (hquiet.disconnect ws h d rfl htask hhandler hid)
      | _ =>
        rw [htask] at hself
        change Sessions (s.apply ws d { device := s.core.devices d, push := s.push d, task := _ })
        rw [hself]
        exact hs.sessions
  | answered ws released =>
    rw [Server.step]
    split
    · exact hs
    · rename_i d hdevice
      obtain ⟨h, hhandler, hid⟩ := deviceOf_eq_some.mp hdevice
      exact ⟨hs.owned.push orderly_answered, .apply_answered hs hhandler hid released⟩
  | finished ws =>
    rw [Server.step]
    split
    · rename_i frame htask
      obtain ⟨h, d, hhandler, hid, -⟩ := hs.sessions.task ws (by simp [htask])
      exact ⟨hs.owned, hs.sessions.goto hhandler hid (by rw [htask]; rfl) trivial rfl⟩
    · exact hs
  | raised ws =>
    rw [Server.step]
    split
    · exact hs
    · rename_i d hdevice
      obtain ⟨h, hhandler, hid⟩ := deviceOf_eq_some.mp hdevice
      split_ifs with hraises
      · exact hs.raised hhandler hid hraises
      · exact hs
  | slot d jobId live =>
    have hsame : Evolves s.core s.core fun _ => False := .of_handlers rfl
    refine ⟨hs.owned, hs.sessions.evolve hsame (fun _ _ => rfl) (fun _ hact => hact.elim)
      (fun d' => ?_) fun d' ws hsession => ?_⟩
    · rcases eq_or_ne d' d with rfl | hne
      · simp [Server.step]
      · simp [Server.step, hne]
    · rcases eq_or_ne d' d with rfl | hne
      · simpa [Server.step] using hsession
      · simpa [Server.step, hne] using hsession

/-- A superseded socket changes nothing of its device, and releases no slot of it. -/
theorem Server.Sound.superseded (hs : s.Sound) (hsuperseded : s.core.Superseded ws d)
    (label : ServerLabel) (hsocket : label.socket? = some ws) :
    (s.step label).core.devices d = s.core.devices d ∧
      ((s.step label).push d).slots = (s.push d).slots := by
  obtain ⟨h, hhandler, hid, hold⟩ := hsuperseded.not_newest
  have hown : (s.core.devices d).ownedBy ws = false := by
    rw [← Bool.not_eq_true]
    exact fun hown => hold (hs.owned.newest_of_ownedBy hhandler hown)
  have hreleases : (s.tasks ws).releases = false := by
    rw [← Bool.not_eq_true]
    exact fun hreleases => hold (hs.sessions.releases ws h d hhandler hid hreleases)
  have hdevice : s.deviceOf ws = some d := deviceOf_eq_some.mpr ⟨h, hhandler, hid⟩
  -- a turn of the socket's task
  have hturn : ∀ {turn : PushTurn},
      turn.Orderly ws (s.core.devices d) (s.push d) (s.tasks ws) →
      (s.apply ws d turn).core.devices d = s.core.devices d ∧
        ((s.apply ws d turn).push d).slots = (s.push d).slots := by
    intro turn horderly
    refine ⟨(Function.update_self ..).trans (horderly.device hown), ?_⟩
    change (Function.update s.push d turn.push d).slots = _
    rw [Function.update_self]
    exact horderly.slots hreleases
  cases label with
  | core label =>
    have hcore := hs.owned.superseded hsuperseded label hsocket
    rw [Server.step]
    split_ifs
    · exact ⟨rfl, rfl⟩
    · rw [Server.stepCore.eq_def]
      split
      · exact absurd hsocket (by simp [ServerLabel.socket?, Label.socket?])
      · split
        · rename_i ws' d' hclaims
          refine ⟨hcore, ?_⟩
          rcases eq_or_ne d d' with rfl | hne
          · simp only [Function.update_self]
          · simp only [Function.update_of_ne hne]
        · exact ⟨hcore, rfl⟩
  | frame ws frame =>
    rw [Server.step]
    split
    · exact ⟨rfl, rfl⟩
    · split_ifs <;> exact ⟨rfl, rfl⟩
  | disconnect ws =>
    rw [Server.step]
    split
    · exact ⟨rfl, rfl⟩
    · split_ifs <;> exact ⟨rfl, rfl⟩
  | locked ws =>
    obtain rfl := Option.some.inj hsocket
    rw [Server.step, hdevice]
    exact hturn orderly_locked
  | answered ws released =>
    obtain rfl := Option.some.inj hsocket
    rw [Server.step, hdevice]
    exact hturn orderly_answered
  | finished ws =>
    rw [Server.step]
    split <;> exact ⟨rfl, rfl⟩
  | raised ws =>
    obtain rfl := Option.some.inj hsocket
    rw [Server.step, hdevice]
    simp only
    split_ifs
    · refine ⟨hs.owned.superseded hsuperseded _ ?_, ?_⟩
      · rw [Server.exception]
        split_ifs <;> rfl
      · simp only [Function.update_self]
        cases s.tasks ws with
        | acknowledging => exact PushDevice.dropSession_slots
        | _ => rfl
    · exact ⟨rfl, rfl⟩
  | slot d jobId live => exact absurd hsocket (by simp [ServerLabel.socket?])

end Steps

/-! ### Along runs -/

/-- As long as no socket registers in an await between a test and what is done because of it, a
superseded socket changes nothing of its device and releases no slot of it; and the device is
registered for an open socket or for one that came later, unless one that came later has ended. -/
theorem device_belongs_to_newest (labels : List ServerLabel)
    (hquiet : Run.Along Server.step Server.Undisturbed {} labels) :
    (∀ ws d label, (Run.exec Server.step {} labels).core.Superseded ws d →
      label.socket? = some ws →
      ((Run.exec Server.step {} labels).step label).core.devices d =
        (Run.exec Server.step {} labels).core.devices d ∧
      (((Run.exec Server.step {} labels).step label).push d).slots =
        ((Run.exec Server.step {} labels).push d).slots) ∧
    ∀ ws h d, (Run.exec Server.step {} labels).core.handlers ws = some h → h.deviceId = some d →
      h.isOpen →
      (∀ ws' h', (Run.exec Server.step {} labels).core.handlers ws' = some h' →
        h'.deviceId = some d → h.claim < h'.claim → h'.point ≠ .closed) →
      ∃ c h', ((Run.exec Server.step {} labels).core.devices d).connection = some c ∧
        (Run.exec Server.step {} labels).core.handlers c.ws = some h' ∧ h'.deviceId = some d ∧
        h.claim ≤ h'.claim := by
  have hs : (Run.exec Server.step {} labels).Sound :=
    hquiet.invariant (fun s label hs hstep => hs.step label hstep) Server.Sound.initial
  exact ⟨fun ws d label hsuperseded => hs.superseded hsuperseded label,
    fun ws h d => hs.owned.registered⟩

/-! ### Two runs -/

/-- The labels connect only sockets below a bound. -/
def ServerLabel.connectsBelow (n : Nat) : ServerLabel → Bool
  | .core label => Connections.connectsBelow n label
  | _ => true

/-- Only sockets that have connected have a handler. -/
theorem serverHandlers_eq_none {s : Server} {n : Nat} {ws : Socket} (hws : n ≤ ws)
    (hnone : s.core.handlers ws = none) (label : ServerLabel)
    (hlabel : label.connectsBelow n = true) : (s.step label).core.handlers ws = none := by
  have hcore : ∀ label, Connections.connectsBelow n label = true →
      (s.core.step label).handlers ws = none := by
    intro label hbelow
    refine handlers_eq_none hnone label ?_
    rintro remote rfl
    rw [Connections.connectsBelow, decide_eq_true_iff] at hbelow
    exact absurd hbelow (Nat.not_lt.mpr hws)
  cases label with
  | core label =>
    rw [Server.step]
    split_ifs
    · exact hnone
    · rw [Server.stepCore.eq_def]
      split
      · exact hcore (.restart _) rfl
      · split <;> exact hcore _ hlabel
  | raised ws' =>
    rw [Server.step]
    split
    · exact hnone
    · split_ifs
      · refine hcore _ ?_
        rw [Server.exception]
        split_ifs <;> rfl
      · exact hnone
  | frame ws' frame =>
    rw [Server.step]
    split
    · exact hnone
    · split_ifs <;> exact hnone
  | disconnect ws' =>
    rw [Server.step]
    split
    · exact hnone
    · split_ifs <;> exact hnone
  | locked ws' =>
    rw [Server.step]
    split <;> exact hnone
  | answered ws' released =>
    rw [Server.step]
    split <;> exact hnone
  | finished ws' =>
    rw [Server.step]
    split <;> exact hnone
  | slot d jobId live => exact hnone

/-- No handler below the bound is between a test and what it does because of it, or is about to
remove its session; and records can be saved. -/
def Server.quietBelow (n : Nat) (s : Server) (label : ServerLabel) : Bool :=
  decide (∀ ws < n, (s.core.handlers ws).all fun h => !h.between) &&
    decide (∀ ws < n, !(s.tasks ws).releases && s.tasks ws ≠ .disconnecting) &&
    match label with
    | .core (.message _ _ saved) => saved
    | _ => true

/-- A run in which nobody is ever between a test and what it does because of it. -/
theorem undisturbed_of_quietBelow {labels : List ServerLabel} (n : Nat)
    (hconnects : ∀ label ∈ labels, label.connectsBelow n = true)
    (hquiet : Run.Along Server.step (fun s label => s.quietBelow n label = true) {} labels) :
    Run.Along Server.step Server.Undisturbed {} labels := by
  suffices hrun : ∀ (s : Server) (labels : List ServerLabel),
      (∀ ws, n ≤ ws → s.core.handlers ws = none) →
      (∀ label ∈ labels, label.connectsBelow n = true) →
      Run.Along Server.step (fun s label => s.quietBelow n label = true) s labels →
      Run.Along Server.step Server.Undisturbed s labels from
    hrun {} labels (fun _ _ => rfl) hconnects hquiet
  intro s labels
  induction labels generalizing s with
  | nil => exact fun _ _ _ => trivial
  | cons label labels ih =>
    intro hbound hbelow hquiet
    have hnext : ∀ ws, n ≤ ws → (s.step label).core.handlers ws = none := fun ws hws =>
      serverHandlers_eq_none hws (hbound ws hws) label (hbelow label List.mem_cons_self)
    refine ⟨?_, ih _ hnext (fun l hl => hbelow l (List.mem_cons_of_mem _ hl)) hquiet.2⟩
    have hlt : ∀ {ws h}, s.core.handlers ws = some h → ws < n := by
      intro ws h hhandler
      by_contra hge
      rw [hbound ws (Nat.not_lt.mp hge)] at hhandler
      exact absurd hhandler (by simp)
    have hstep := hquiet.1
    simp only [Server.quietBelow, Bool.and_eq_true, decide_eq_true_iff] at hstep
    obtain ⟨⟨hhandlers, htasks⟩, hsaved⟩ := hstep
    refine ⟨?_, ?_⟩
    · rintro claim ws d saved rfl - hclaims ws' h' hhandler' -
      have hbetween := hhandlers ws' (hlt hhandler')
      rw [hhandler', Option.all_some, Bool.not_eq_true'] at hbetween
      refine ⟨hbetween, by simpa using (htasks ws' (hlt hhandler')).1, .inl ?_⟩
      obtain ⟨data, rfl⟩ := State.message_of_claims hclaims
      exact hsaved
    · intro ws h d hlabel htask hhandler
      exact absurd htask (htasks ws (hlt hhandler)).2

/-- The steps of the push runtime for each `REGISTER`: the lock, the store, which is asked once more
if there is a session to replace, and the `REGISTERED`. -/
def withPush (labels : List Label) : List ServerLabel :=
  labels.flatMap fun label =>
    match label with
    | .message ws (.register _) _ =>
      [.core label, .locked ws, .answered ws none, .answered ws none, .answered ws none]
    | _ => [.core label]

/-- The job of the runs below. -/
def sampleJob : Str := ofString "job"

/-- A device registers, and downloads a bundle; it loses its connection unnoticed and registers
again while a frame of the old one waits for the lock. -/
def reconnected : List ServerLabel :=
  withPush
    [.connect 0 none, .message 0 (registerSample 1) true, .resume 0 completed,
      .resume 0 completed] ++
  [.slot sampleId sampleJob true, .frame 0 (.transferComplete sampleJob)] ++
  [.core (.connect 1 none), .core (.message 1 (registerSample 1) true)]

/-- In a run with a reconnect the old socket changes nothing of the device any more. -/
theorem device_belongs_to_newest_reconnected :
    (Run.exec Server.step {} reconnected).core.Superseded 0 sampleId ∧
    ((Run.exec Server.step {} reconnected).step (.locked 0)).core.devices sampleId =
      (Run.exec Server.step {} reconnected).core.devices sampleId ∧
    (((Run.exec Server.step {} reconnected).step (.locked 0)).push sampleId).slots =
      ((Run.exec Server.step {} reconnected).push sampleId).slots := by
  have hsuperseded : (Run.exec Server.step {} reconnected).core.Superseded 0 sampleId :=
    State.superseded_of_summary
      (by decide +kernel : _ = some (some sampleId, 1, false))
      (by decide +kernel : ((Run.exec Server.step {} reconnected).core.handlers 1).map
        Handler.summary = some (some sampleId, 5, true))
      (by decide)
  have hquiet : Run.Along Server.step Server.Undisturbed {} reconnected :=
    undisturbed_of_quietBelow 2 (by decide) (by decide +kernel)
  exact ⟨hsuperseded,
    (device_belongs_to_newest reconnected hquiet).1 0 sampleId (.locked 0) hsuperseded rfl⟩

/-- The socket closes during the check of a self-update, and the device registers again while the
admins are told. -/
def reconnectedWhileClosing : List ServerLabel :=
  withPush updatedAndVerifying ++
    [.core (.close 1), .core (.connect 2 none), .core (.message 2 (registerSample 2) true)]

/-- The device registers again while the store is asked about a frame of the old socket. -/
def reconnectedWhileHandling : List ServerLabel :=
  withPush
    [.connect 0 none, .message 0 (registerSample 1) true, .resume 0 completed,
      .resume 0 completed] ++
  [.slot sampleId sampleJob true, .frame 0 (.transferComplete sampleJob), .locked 0] ++
  [.core (.connect 1 none), .core (.message 1 (registerSample 1) true)]

/-- The closing handler deletes the registration of the new socket; and a frame of the old one
releases a slot. -/
theorem registration_deleted_by_superseded :
    ((Run.exec Server.step {} reconnectedWhileClosing).core.Superseded 1 sampleId ∧
      ((Run.exec Server.step {} reconnectedWhileClosing).core.devices sampleId).connection.map
        (fun c => c.ws) = some 2 ∧
      (((Run.exec Server.step {} reconnectedWhileClosing).step
        (.core (.resume 1 completed))).core.devices sampleId).connection = none ∧
      ∃ h, ((Run.exec Server.step {} reconnectedWhileClosing).step
          (.core (.resume 1 completed))).core.handlers 2 = some h ∧
        h.deviceId = some sampleId ∧ h.isOpen) ∧
    (Run.exec Server.step {} reconnectedWhileHandling).core.Superseded 0 sampleId ∧
    ((Run.exec Server.step {} reconnectedWhileHandling).push sampleId).slots sampleJob = true ∧
    (((Run.exec Server.step {} reconnectedWhileHandling).step
      (.answered 0 (some sampleJob))).push sampleId).slots sampleJob = false := by
  have hsuperseded : (Run.exec Server.step {} reconnectedWhileClosing).core.Superseded 1 sampleId :=
    State.superseded_of_summary
      (by decide +kernel : _ = some (some sampleId, 9, false))
      (by decide +kernel : ((Run.exec Server.step {} reconnectedWhileClosing).core.handlers 2).map
        Handler.summary = some (some sampleId, 17, true))
      (by decide)
  have hopen : (((Run.exec Server.step {} reconnectedWhileClosing).step
      (.core (.resume 1 completed))).core.handlers 2).map Handler.summary =
        some (some sampleId, 17, true) := by decide +kernel
  obtain ⟨h, hhandler, heq⟩ := Option.map_eq_some_iff.mp hopen
  have hsuperseded' :
      (Run.exec Server.step {} reconnectedWhileHandling).core.Superseded 0 sampleId :=
    State.superseded_of_summary
      (by decide +kernel : _ = some (some sampleId, 1, false))
      (by decide +kernel : ((Run.exec Server.step {} reconnectedWhileHandling).core.handlers 1).map
        Handler.summary = some (some sampleId, 5, true))
      (by decide)
  exact ⟨⟨hsuperseded, by decide +kernel, by decide +kernel, h, hhandler,
    (Prod.mk.inj heq).1, Handler.isOpen_of_summary heq⟩,
    hsuperseded', by decide +kernel, by decide +kernel⟩

end StylyMdm.Connections
