import StylyMdm.Connections.PushRuntime

/-!
# What a step with the push runtime does

`Evolves` is what a step of the core leaves of the handlers as long as no socket claims a device.
`PushTurn.Orderly` is what all turns in the push runtime have in common: without the ownership they
change nothing of the device, the candidate of a device is removed only by itself, and a slot is
released only after the awaits that are for it.

The push runtime writes one field of a registration, whether it is ready. That is why its turns
leave the invariant of the handlers alone (`Owned.push` in `Sessions`), and why nothing of
`Connections.Steps` has to be proved again: a step of the core is one of the steps listed there, and
a turn in the push runtime changes candidates, sessions and slots.

The lemmas on `dropCandidate`, `dropSession` and `releaseAny` are what the modules that follow know
of these operations; each of the three changes one of the fields of `PushDevice`.
-/

namespace StylyMdm.Connections

open Text Py

/-! ### What a step of the core leaves of the handlers -/

/-- The handlers keep their devices and their claims, and do not open again; those of sockets that
do not act are as they were. -/
structure Evolves (s s' : State) (acts : Socket → Prop) : Prop where
  before : ∀ ws h' d, s'.handlers ws = some h' → h'.deviceId = some d →
    ∃ h, s.handlers ws = some h ∧ h.deviceId = some d ∧ h.claim = h'.claim
  after : ∀ ws h d, s.handlers ws = some h → h.deviceId = some d →
    ∃ h', s'.handlers ws = some h' ∧ h'.deviceId = some d ∧ h'.claim = h.claim ∧
      (h'.isOpen → h.isOpen)
  others : ∀ ws h, ¬ acts ws → s.handlers ws = some h → s'.handlers ws = some h

section Evolves

variable {s s' : State} {acts : Socket → Prop}

/-- A change that leaves the handlers alone. -/
theorem Evolves.of_handlers (hhandlers : s'.handlers = s.handlers) : Evolves s s' acts where
  before _ h _ hhandler hid := ⟨h, hhandlers ▸ hhandler, hid, rfl⟩
  after _ h _ hhandler hid := ⟨h, hhandlers ▸ hhandler, hid, rfl, id⟩
  others _ _ _ hhandler := hhandlers ▸ hhandler

/-- One handler moves on. -/
theorem Evolves.of_update {ws : Socket} {h h' : Handler}
    (hhandlers : s'.handlers = Function.update s.handlers ws (some h'))
    (hhandler : s.handlers ws = some h) (hid : h'.deviceId = h.deviceId)
    (hclaim : h'.claim = h.claim) (hopen : h.deviceId.isSome → h'.isOpen → h.isOpen)
    (hacts : acts ws) : Evolves s s' acts where
  before ws' g d hg hd := by
    rcases handler_cases hhandlers hg with ⟨rfl, rfl⟩ | ⟨-, hg'⟩
    · exact ⟨h, hhandler, hid ▸ hd, hclaim.symm⟩
    · exact ⟨g, hg', hd, rfl⟩
  after ws' g d hg hd := by
    rcases eq_or_ne ws' ws with rfl | hne
    · rw [hhandler, Option.some_inj] at hg
      subst hg
      exact ⟨h', by rw [hhandlers, Function.update_self], hid.trans hd, hclaim,
        hopen (by rw [hd]; rfl)⟩
    · exact ⟨g, by rw [hhandlers, Function.update_of_ne hne]; exact hg, hd, rfl, id⟩
  others ws' g hnot hg := by
    rw [hhandlers, Function.update_of_ne]
    · exact hg
    · rintro rfl
      exact hnot hacts

/-- Such a change does not decide anew which registration is the newest. -/
theorem Evolves.newest (hs : Evolves s s' acts) (d : DeviceId) (n : Nat) :
    s'.Newest d n ↔ s.Newest d n := by
  constructor
  · intro hnewest ws h hhandler hid
    obtain ⟨h', hhandler', hid', hclaim, -⟩ := hs.after ws h d hhandler hid
    exact hclaim ▸ hnewest ws h' hhandler' hid'
  · intro hnewest ws h' hhandler' hid'
    obtain ⟨h, hhandler, hid, hclaim⟩ := hs.before ws h' d hhandler' hid'
    exact hclaim ▸ hnewest ws h hhandler hid

/-- A handler that has reached its `finally` block does not leave it. -/
theorem TurnOf.isOpen {ws : Socket} {h : Handler} {d : DeviceId} {label : Label} {turn : Turn}
    (hturn : TurnOf s ws h d label turn) (hopen : turn.handler.isOpen) : h.isOpen := by
  have hclosed : h.point ≠ .closed := fun hpoint => hopen.2 (hturn.closed hpoint)
  refine ⟨fun hpoint => ?_, hclosed⟩
  cases hturn with
  | message message saved hreceive hown => simp [hpoint] at hreceive
  | raise data saved hreceive hrequest => simp [hpoint] at hreceive
  | close hreceive => simp [hpoint] at hreceive
  | resume answer =>
    rw [hpoint] at hopen
    refine hopen.2 ?_
    cases answer with
    | done ready hashes =>
      rw [Connections.resume]
      split_ifs <;> rfl
    | failed => rfl
    | cancelled => rfl

/-- A step that claims no device. -/
theorem State.evolves (s : State) (label : Label) (hclaims : s.claims label = none)
    (hrestart : ∀ registry, label ≠ .restart registry) :
    Evolves s (s.step label) (fun ws => label.socket? = some ws) := by
  have hhappens := step_happens s label
  generalize s.step label = s' at hhappens
  cases hhappens with
  | nothing => exact .of_handlers rfl
  | connected ws remote hnew =>
    have hne : ∀ {ws' h}, s.handlers ws' = some h → ws' ≠ ws := by
      rintro ws' h hhandler rfl
      rw [hnew] at hhandler
      exact absurd hhandler (by simp)
    refine ⟨fun ws' h d hhandler hid => ?_, fun ws' h d hhandler hid => ?_,
      fun ws' h _ hhandler => ?_⟩
    · rcases handler_cases rfl hhandler with ⟨rfl, rfl⟩ | ⟨-, hhandler'⟩
      · exact absurd hid (by simp)
      · exact ⟨h, hhandler', hid, rfl⟩
    · exact ⟨h, (Function.update_of_ne (hne hhandler) _ _).trans hhandler, hid, rfl, id⟩
    · exact (Function.update_of_ne (hne hhandler) _ _).trans hhandler
  | parked _ ws h h' events hsocket hhandler hid hclaim hbefore hafter hclosed hevents =>
    refine .of_update rfl hhandler hid hclaim (fun hsome _ => ?_) hsocket
    rcases hbefore with hreceive | hnone
    · rw [Handler.isOpen, hreceive]
      simp
    · rw [hnone] at hsome
      exact absurd hsome (by simp)
  | turned _ ws h d turn hhandler hid hturn =>
    exact .of_update rfl hhandler hturn.orderly.deviceId hturn.orderly.claim
      (fun _ => hturn.isOpen) hturn.socket
  | claimed ws data saved h kind d version hhandler hreceive hrequest =>
    rw [State.claims_eq_some hhandler hreceive hrequest] at hclaims
    exact absurd hclaims (by simp)
  | fired t saved timer htimer => exact .of_handlers rfl
  | forgotten d hoffline => exact .of_handlers rfl
  | transferred _ d dispatch transfers hsocket => exact .of_handlers rfl
  | restarted registry => exact absurd rfl (hrestart registry)

end Evolves

/-! ### What a turn does -/

section Turns

variable {ws : Socket} {dev : Device} {push : PushDevice} {task : PushTask} {released : Option Str}

/-- What all turns in the push runtime have in common. -/
structure PushTurn.Orderly (ws : Socket) (dev : Device) (push : PushDevice) (task : PushTask)
    (turn : PushTurn) : Prop where
  /-- The registration stays the one of the same socket. -/
  connection : (turn.device.connection.map fun c => c.ws) = dev.connection.map fun c => c.ws
  /-- No socket but the candidate itself removes a candidate, and none replaces one. -/
  candidate : turn.push.candidate = push.candidate ∨
    push.candidate = some ws ∧ turn.push.candidate = none
  /-- Without the ownership nothing of the device changes. -/
  device : dev.ownedBy ws = false → turn.device = dev
  /-- A slot is released only after the awaits that are for it. -/
  slots : task.releases = false → turn.push.slots = push.slots

/-- A turn that leaves the device and the candidate alone. -/
theorem PushTurn.Orderly.of_candidate {turn : PushTurn} (hdevice : turn.device = dev)
    (hcandidate : turn.push.candidate = push.candidate)
    (hslots : task.releases = false → turn.push.slots = push.slots) :
    turn.Orderly ws dev push task where
  connection := by rw [hdevice]
  candidate := .inl hcandidate
  device _ := hdevice
  slots := hslots

/-- A socket drops itself as the candidate, or nothing. -/
theorem PushDevice.dropCandidate_candidate :
    (push.dropCandidate ws).candidate = push.candidate ∨
      push.candidate = some ws ∧ (push.dropCandidate ws).candidate = none := by
  rw [PushDevice.dropCandidate]
  split_ifs with hcandidate
  · exact .inr ⟨hcandidate, rfl⟩
  · exact .inl rfl

/-- Afterwards it is not the candidate. -/
theorem PushDevice.dropCandidate_ne : (push.dropCandidate ws).candidate ≠ some ws := by
  rw [PushDevice.dropCandidate]
  split_ifs with hcandidate
  · simp
  · exact hcandidate

/-- The session stays. -/
@[simp] theorem PushDevice.dropCandidate_session :
    (push.dropCandidate ws).session = push.session := by
  rw [PushDevice.dropCandidate]
  split_ifs <;> rfl

/-- And so do the slots. -/
@[simp] theorem PushDevice.dropCandidate_slots : (push.dropCandidate ws).slots = push.slots := by
  rw [PushDevice.dropCandidate]
  split_ifs <;> rfl

/-- Dropping the session leaves the candidate. -/
@[simp] theorem PushDevice.dropSession_candidate :
    (push.dropSession ws).candidate = push.candidate := by
  rw [PushDevice.dropSession]
  split_ifs <;> rfl

/-- And the slots. -/
@[simp] theorem PushDevice.dropSession_slots : (push.dropSession ws).slots = push.slots := by
  rw [PushDevice.dropSession]
  split_ifs <;> rfl

/-- The session of another socket stays. -/
theorem PushDevice.dropSession_session {ws' : Socket}
    (hsession : (push.dropSession ws).session = some ws') : push.session = some ws' ∧ ws' ≠ ws := by
  rw [PushDevice.dropSession] at hsession
  split_ifs at hsession with hown
  refine ⟨hsession, ?_⟩
  rintro rfl
  exact hown hsession

/-- A release leaves the candidate. -/
@[simp] theorem PushDevice.releaseAny_candidate :
    (push.releaseAny released).candidate = push.candidate := by
  cases released <;> rfl

/-- And the session. -/
@[simp] theorem PushDevice.releaseAny_session :
    (push.releaseAny released).session = push.session := by
  cases released <;> rfl

/-- The candidate that owns the device may register. -/
theorem PushDevice.registrable_iff :
    push.registrable ws dev = true ↔ push.candidate = some ws ∧ dev.ownedBy ws = true := by
  rw [PushDevice.registrable, Bool.and_eq_true, decide_eq_true_iff]

/-- A frame that releases nothing names no job to release. -/
theorem Frame.mayRelease_eq_false {frame : Frame} (hreleases : frame.releases = false)
    (jobId : Str) : frame.mayRelease jobId = false := by
  cases frame <;> first | rfl | exact absurd hreleases (by simp [Frame.releases])

/-- `register_device`, from the lock to its first await. -/
theorem orderly_registerDevice :
    (registerDevice ws dev push).Orderly ws dev push .registering := by
  rw [registerDevice]
  split_ifs
  · exact .of_candidate rfl rfl fun _ => rfl
  · exact .of_candidate rfl rfl fun _ => rfl
  · exact .of_candidate rfl rfl fun _ => rfl

/-- `disconnect_device` under the lock. -/
theorem orderly_disconnectDevice :
    (disconnectDevice ws dev push).Orderly ws dev push .disconnecting := by
  rw [disconnectDevice]
  split_ifs with hsession hown
  · exact
      { connection := rfl
        candidate := PushDevice.dropCandidate_candidate
        device := fun _ => rfl
        slots := fun _ => PushDevice.dropCandidate_slots }
  · exact
      { connection := by
          simp only [Device.acknowledge, Option.map_map]
          rfl
        candidate := by
          simp only [PushDevice.dropSession_candidate]
          exact PushDevice.dropCandidate_candidate
        device := fun hnot => by
          rw [hown] at hnot
          exact absurd hnot (by simp)
        slots := fun _ => by simp }
  · exact
      { connection := rfl
        candidate := by
          simp only [PushDevice.dropSession_candidate]
          exact PushDevice.dropCandidate_candidate
        device := fun _ => rfl
        slots := fun _ => by simp }

/-- Whatever a task does when it gets the lock. -/
theorem orderly_locked : (locked ws dev push task).Orderly ws dev push task := by
  cases task with
  | registering => exact orderly_registerDevice
  | waiting frame =>
    rw [locked, handleDeviceMessage]
    split_ifs
    · exact .of_candidate rfl rfl fun _ => rfl
    · exact .of_candidate rfl rfl fun _ => rfl
  | disconnecting => exact orderly_disconnectDevice
  | _ => exact .of_candidate rfl rfl fun _ => rfl

/-- Whatever it does when its await is answered. -/
theorem orderly_answered : (answered ws dev push released task).Orderly ws dev push task := by
  cases task with
  | replacing =>
    exact .of_candidate rfl PushDevice.releaseAny_candidate fun hnot =>
      absurd hnot (by simp [PushTask.releases])
  | preparing =>
    rw [answered]
    split_ifs
    · exact .of_candidate rfl rfl fun _ => rfl
    · exact .of_candidate rfl rfl fun _ => rfl
  | acknowledging =>
    rw [answered]
    split_ifs
    · exact .of_candidate rfl rfl fun _ => rfl
    · exact
        { connection := rfl
          candidate := PushDevice.dropCandidate_candidate
          device := fun _ => rfl
          slots := fun _ => PushDevice.dropCandidate_slots }
  | handling frame =>
    refine .of_candidate rfl PushDevice.releaseAny_candidate fun hreleases => ?_
    have hnone : released.filter frame.mayRelease = none := by
      rw [Option.filter_eq_none_iff]
      intro jobId _
      simp [Frame.mayRelease_eq_false hreleases jobId]
    rw [answered, hnone]
    rfl
  | reading =>
    exact .of_candidate rfl PushDevice.releaseAny_candidate fun hnot =>
      absurd hnot (by simp [PushTask.releases])
  | _ => exact .of_candidate rfl rfl fun _ => rfl

end Turns

/-! ### Where the push runtime starts -/

/-- A handler receives where it waits for a message. -/
theorem Handler.receives_iff {h : Handler} : h.receives = true ↔ h.point = .receive := by
  rw [Handler.receives]
  split <;> simp_all

/-- It may be closed there, and where it has been refused or is over. -/
theorem Handler.closes_iff {h : Handler} :
    h.closes = true ↔ h.point = .receive ∨ h.point = .rejecting ∨ h.point = .closed := by
  rw [Handler.closes]
  split <;> simp_all

end StylyMdm.Connections
