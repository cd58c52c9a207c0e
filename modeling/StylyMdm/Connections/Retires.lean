import StylyMdm.Connections.Ownership

/-!
# How a retire ends

A device that is about to remove its client says so and then is silent. The verdict is the timer's,
or that of a registration that gets as far as `_resolve_pending_retire`. A registration that does
not get there leaves the timer running: as long as there is none (`State.retireSafe`), a device is
taken for removed only when nothing has been heard of it since its announcement.

Three invariants are proved side by side, each from what one step does to the retires
(`RetireStep`):

* `Settled`: every announcement is settled at most once. An entry that is pending has not been
  settled, and what settles it removes it from the dictionary in the same turn. This one needs no
  condition.
* `Present`: a device that is connected is not flagged as retired, because a registration clears the
  flag before it is visible.
* `Unheard`: while an entry is pending, nothing was received of the device since the announcement
  (`Silent`), or a registration is on its way to the place where it settles the retire
  (`Reregistering`). The second case is what the condition keeps from ending otherwise.

The run at the end registers on a new socket whose `REGISTERED` cannot be sent, and is flagged as
retired by the timer all the same.
-/

namespace StylyMdm.Connections

open Text Py
open Registry (IdentityKind RegisterData)

/-! ### What a turn does to a retire -/

/-- The events that matter for a retire. -/
def Event.aboutRetire : Event → Bool
  | .registerReceived _ => true
  | .retireAnnounced _ _ => true
  | .retireResult _ _ _ => true
  | .retireFlagged _ _ => true
  | _ => false

/-- How a turn leaves the retire of its device. -/
inductive Turn.Retire (dev : Device) (now : Nat) (deviceId : DeviceId) (turn : Turn) : Prop
  | kept (hpending : turn.device.pendingRetire = dev.pendingRetire)
      (hevents : ∀ event ∈ turn.events, event.aboutRetire = false)
  | dropped (hpending : turn.device.pendingRetire = none)
      (hevents : ∀ event ∈ turn.events, event.aboutRetire = false)
  | announced (entry : PendingRetire) (hentry : entry.announcement = now)
      (hpending : turn.device.pendingRetire = some entry)
      (hevents : turn.events = [.retireAnnounced now deviceId])
  | refused (entry : PendingRetire) (hbefore : dev.pendingRetire = some entry)
      (hpending : turn.device.pendingRetire = none)
      (hevents : turn.events = [.retireResult entry.announcement deviceId false])

section Turns

variable {ws : Socket} {dev : Device} {h : Handler} {now : Nat} {deviceId : DeviceId}

/-- The `finally` block leaves a pending retirement alone. -/
theorem retire_leave :
    (leave ws dev h).device.pendingRetire = dev.pendingRetire ∧
    (leave ws dev h).device.retired = dev.retired ∧
    ∀ event ∈ (leave ws dev h).events, event.aboutRetire = false := by
  rw [leave]
  by_cases hown : dev.ownedBy ws = true
  · simp only [hown, Bool.not_true, Bool.false_eq_true, if_false]
    split
    · exact ⟨rfl, rfl, by simp [teardown]⟩
    · split
      · exact ⟨rfl, rfl, by simp [teardown]⟩
      · exact ⟨rfl, rfl, by simp [Event.aboutRetire]⟩
  · rw [if_pos (by simpa using hown)]
    exact ⟨rfl, rfl, by simp⟩

/-- Deleting a self-update leaves it alone. -/
theorem retire_deleteSelfUpdate {events : List Event}
    (hevents : ∀ event ∈ events, event.aboutRetire = false) :
    (deleteSelfUpdate ws dev h events).Retire dev now deviceId ∧
    (deleteSelfUpdate ws dev h events).device.retired = dev.retired := by
  have hleave := @retire_leave ws dev h
  rw [deleteSelfUpdate]
  split
  · refine ⟨.kept hleave.1 ?_, hleave.2.1⟩
    simpa [Event.aboutRetire] using hleave.2.2
  · exact ⟨.kept rfl hevents, rfl⟩

/-- And so does resolving one. -/
theorem retire_resolvePendingSelfUpdate {versionCode : Option Int} :
    (resolvePendingSelfUpdate dev h versionCode).Retire dev now deviceId ∧
    (resolvePendingSelfUpdate dev h versionCode).device.retired = dev.retired := by
  rw [resolvePendingSelfUpdate]
  split
  · exact ⟨.kept rfl (by simp), rfl⟩
  · split
    · exact ⟨.kept rfl (by simp), rfl⟩
    · exact ⟨.kept rfl (by simp [Event.aboutRetire]), rfl⟩

/-- And settling one. -/
theorem retire_settleSelfUpdate {entry : SelfUpdate} {success : Bool} :
    (settleSelfUpdate ws dev h entry success).Retire dev now deviceId ∧
    (settleSelfUpdate ws dev h entry success).device.retired = dev.retired := by
  rw [settleSelfUpdate]
  split
  · exact retire_deleteSelfUpdate (by simp)
  · split
    · exact ⟨.kept rfl (by simp), rfl⟩
    · exact retire_deleteSelfUpdate (by simp [Event.aboutRetire])

/-- A registration resolves the pending retirement of its own device only. -/
theorem retire_resolvePendingRetire {versionCode : Option Int} :
    (resolvePendingRetire dev h deviceId versionCode).Retire dev now deviceId ∧
    (resolvePendingRetire dev h deviceId versionCode).device.retired = dev.retired := by
  rw [resolvePendingRetire]
  split
  · exact retire_resolvePendingSelfUpdate
  · rename_i entry hentry
    exact ⟨.refused entry hentry rfl rfl, rfl⟩

/-- Nothing is pending after `_resolve_pending_retire`. -/
theorem pendingRetire_resolvePendingRetire {versionCode : Option Int} :
    (resolvePendingRetire dev h deviceId versionCode).device.pendingRetire = none := by
  rw [resolvePendingRetire]
  split
  · rename_i hnone
    rw [resolvePendingSelfUpdate]
    split
    · exact hnone
    · split
      · exact hnone
      · exact hnone
  · rfl

/-- An acknowledgement leaves it alone. -/
theorem Turn.Retire.of_acknowledge {turn : Turn} {ready : Bool}
    (hturn : turn.Retire (dev.acknowledge ready) now deviceId) : turn.Retire dev now deviceId := by
  cases hturn with
  | kept hpending hevents => exact .kept hpending hevents
  | dropped hpending hevents => exact .dropped hpending hevents
  | announced entry hentry hpending hevents => exact .announced entry hentry hpending hevents
  | refused entry hbefore hpending hevents => exact .refused entry hbefore hpending hevents

/-- A message of the owner announces a retirement, or leaves it alone. -/
theorem retire_handleOwn (message : Message) :
    (handleOwn ws dev h now deviceId message).Retire dev now deviceId ∧
    (handleOwn ws dev h now deviceId message).device.retired = dev.retired := by
  have hleave := @retire_leave ws dev h
  unfold handleOwn
  split
  · rename_i task
    generalize (if task.truthy then task else Value.str taskInstall) = key
    split
    · exact ⟨.kept rfl (by simp), rfl⟩
    · split
      · exact ⟨.kept rfl (by simp), rfl⟩
      · exact ⟨.kept hleave.1 hleave.2.2, hleave.2.1⟩
  · split
    · exact ⟨.kept rfl (by simp), rfl⟩
    · split
      · exact ⟨.kept rfl (by simp [createSelfUpdate]), rfl⟩
      · exact ⟨.kept rfl (by simp), rfl⟩
  · split
    · exact ⟨.kept rfl (by simp), rfl⟩
    · exact ⟨.announced _ rfl rfl rfl, rfl⟩
  · exact ⟨.dropped rfl (by simp [Event.aboutRetire]), rfl⟩
  · simp only
    split
    · exact ⟨.kept rfl (by simp), rfl⟩
    · split
      · exact ⟨.kept rfl (by simp), rfl⟩
      · exact ⟨.kept rfl (by simp), rfl⟩
  · exact ⟨.kept rfl (by simp), rfl⟩
  · split
    · exact ⟨.kept rfl (by simp), rfl⟩
    · split
      · exact ⟨.kept rfl (by simp), rfl⟩
      · exact ⟨.kept rfl (by simp [Event.aboutRetire]), rfl⟩
  · exact ⟨.kept rfl (by simp), rfl⟩
  · exact ⟨.kept rfl (by simp), rfl⟩

/-- A handler that goes on resolves the pending retirement, or leaves it alone. -/
theorem retire_resume (point : Point) (answer : Answer) :
    (resume ws dev h now deviceId point answer).Retire dev now deviceId ∧
    (resume ws dev h now deviceId point answer).device.retired = dev.retired := by
  have hleave := @retire_leave ws dev h
  unfold resume
  split
  · exact ⟨.kept rfl (by simp), rfl⟩
  · split
    · exact retire_resolvePendingRetire.imp Turn.Retire.of_acknowledge id
    · exact ⟨.kept rfl (by simp), rfl⟩
  · exact retire_resolvePendingSelfUpdate
  · exact ⟨.kept rfl (by simp), rfl⟩
  · exact retire_settleSelfUpdate
  · exact ⟨.kept rfl (by simp [awaitVerification]), rfl⟩
  · exact retire_deleteSelfUpdate (by simp [Event.aboutRetire])
  · exact ⟨.kept rfl (by simp [createSelfUpdate]), rfl⟩
  · split
    · exact ⟨.kept rfl (by simp [teardown]), rfl⟩
    · exact ⟨.kept rfl (by simp), rfl⟩
  · exact ⟨.kept rfl (by simp), rfl⟩
  · exact ⟨.kept rfl (by simp), rfl⟩
  · exact ⟨.kept rfl (by simp), rfl⟩
  · exact ⟨.kept hleave.1 hleave.2.2, hleave.2.1⟩

end Turns

section TurnOf

variable {s : State} {ws : Socket} {h : Handler} {d : DeviceId} {label : Label} {turn : Turn}

/-- What a turn does to a pending retirement; a `REGISTER` that raises does nothing to it. -/
theorem TurnOf.retire (hturn : TurnOf s ws h d label turn) :
    turn.Retire (s.devices d) s.time d ∨
    ∃ data saved, label = .message ws (.register data) saved ∧ h.point = .receive ∧
      h.request data = .raise ∧ turn.device.pendingRetire = (s.devices d).pendingRetire ∧
      ∀ event ∈ turn.events, event ∈ received data ∨ event.aboutRetire = false := by
  have hleave := @retire_leave ws (s.devices d) h
  cases hturn with
  | message message saved hreceive hown => exact .inl (retire_handleOwn message).1
  | raise data saved hreceive hrequest =>
    refine .inr ⟨data, saved, rfl, hreceive, hrequest, hleave.1, fun event hevent => ?_⟩
    exact (List.mem_append.mp hevent).imp id (hleave.2.2 event)
  | close hreceive => exact .inl (.kept hleave.1 hleave.2.2)
  | resume answer => exact .inl (retire_resume _ answer).1

/-- No turn changes the flag in the registry. -/
theorem TurnOf.retired (hturn : TurnOf s ws h d label turn) :
    turn.device.retired = (s.devices d).retired := by
  have hleave := @retire_leave ws (s.devices d) h
  cases hturn with
  | message message saved hreceive hown => exact (@retire_handleOwn _ _ _ s.time d message).2
  | raise data saved hreceive hrequest => exact hleave.2.1
  | close hreceive => exact hleave.2.1
  | resume answer => exact (@retire_resume _ _ _ s.time d _ answer).2

end TurnOf

/-- A registration changes nothing of a pending retire, and the device is no longer retired. -/
theorem retire_claimDevice (ws : Socket) (dev : Device) (h : Handler) (now : Nat)
    (kind : IdentityKind) (deviceId : DeviceId) (version : Option Int) (saved : Bool) :
    (claimDevice ws dev h now kind deviceId version saved).device.pendingRetire =
      dev.pendingRetire ∧
    (claimDevice ws dev h now kind deviceId version saved).device.retired = some false ∧
    ∀ event ∈ (claimDevice ws dev h now kind deviceId version saved).events,
      event.aboutRetire = false := by
  rw [claimDevice]
  split
  · exact ⟨rfl, rfl, by simp⟩
  · exact retire_leave

/-! ### What a step does to the retires -/

/-- Does the event settle the announcement? -/
def Event.settles (announcement : Nat) : Event → Bool
  | .retireResult a _ _ => a = announcement
  | _ => false

/-- How a step leaves the retires. -/
inductive RetireStep (s s' : State) : Prop
  | kept (events : List Event) (hlog : s'.log = s.log ++ events)
      (hevents : ∀ event ∈ events, event.aboutRetire = false ∨ ∃ d, event = .registerReceived d)
      (hpending : ∀ d, (s'.devices d).pendingRetire = (s.devices d).pendingRetire ∨
        (s'.devices d).pendingRetire = none)
  | announced (d : DeviceId) (entry : PendingRetire) (hentry : entry.announcement = s.time)
      (htime : s'.time = s.time + 1) (hlog : s'.log = s.log ++ [.retireAnnounced s.time d])
      (hpending : (s'.devices d).pendingRetire = some entry)
      (hother : ∀ d', d' ≠ d → (s'.devices d').pendingRetire = (s.devices d').pendingRetire)
  | settled (d : DeviceId) (entry : PendingRetire) (events : List Event)
      (hlog : s'.log = s.log ++ events) (hbefore : (s.devices d).pendingRetire = some entry)
      (hevents : ∀ event ∈ events, event = .retireFlagged entry.announcement d ∨
        ∃ success, event = .retireResult entry.announcement d success)
      (honce : events.countP (Event.settles entry.announcement) ≤ 1)
      (hoffline : events = [.retireResult entry.announcement d false] ∨
        (s.devices d).connection = none ∧ (s'.devices d).connection = none)
      (hpending : (s'.devices d).pendingRetire = none)
      (hother : ∀ d', d' ≠ d → (s'.devices d').pendingRetire = (s.devices d').pendingRetire)

/-- A fired timer. -/
inductive FireRetire (dev : Device) (timer : Timer) (result : Device × List Event) : Prop
  | kept (hpending : result.1.pendingRetire = dev.pendingRetire)
      (hretired : result.1.retired = dev.retired)
      (hevents : ∀ event ∈ result.2, event.aboutRetire = false)
  | refused (entry : PendingRetire) (hbefore : dev.pendingRetire = some entry)
      (hpending : result.1.pendingRetire = none) (hretired : result.1.retired = dev.retired)
      (hevents : result.2 = [.retireResult entry.announcement timer.deviceId false])
  | retired (entry : PendingRetire) (hbefore : dev.pendingRetire = some entry)
      (hoffline : dev.connection = none) (hpending : result.1.pendingRetire = none)
      (hretired : result.1.retired = some true →
        .retireFlagged entry.announcement timer.deviceId ∈ result.2)
      (hevents : ∀ event ∈ result.2, event = .retireFlagged entry.announcement timer.deviceId ∨
        event = .retireResult entry.announcement timer.deviceId true)
      (honce : result.2.countP (Event.settles entry.announcement) ≤ 1)

/-- A timer flags the device of its own retirement. -/
theorem fire_retire (dev : Device) (timer : Timer) (saved : Bool) :
    FireRetire dev timer (fire dev timer saved) := by
  unfold fire
  split
  · split
    · exact .kept rfl rfl (by simp)
    · split
      · exact .kept rfl rfl (by simp [Event.aboutRetire])
      · exact .kept rfl rfl (by simp)
  · split
    · exact .kept rfl rfl (by simp)
    · split
      · exact .kept rfl rfl (by simp [Event.aboutRetire])
      · exact .kept rfl rfl (by simp)
  · split
    · exact .kept rfl rfl (by simp)
    · rename_i entry hentry
      split
      · exact .kept rfl rfl (by simp)
      · split
        · exact .refused entry hentry rfl rfl rfl
        · rename_i hoffline
          have hnone : dev.connection = none := by simpa using hoffline
          split
          · rename_i hrecord
            exact .retired entry hentry hnone rfl (by simp [hrecord]) (by simp)
              (by simp [Event.settles])
          · refine .retired entry hentry hnone rfl (by simp) ?_ ?_
            · cases saved <;> simp
            · cases saved <;> simp [Event.settles]

section Fire

variable {dev : Device} {timer : Timer} {result : Device × List Event}

/-- A timer leaves a retire pending, or settles it. -/
theorem FireRetire.pendingRetire (hfire : FireRetire dev timer result) {entry : PendingRetire}
    (hentry : result.1.pendingRetire = some entry) : dev.pendingRetire = some entry := by
  cases hfire with
  | kept hpending hretired hevents => exact hpending ▸ hentry
  | refused entry' hbefore hpending hretired hevents =>
    rw [hpending] at hentry
    exact absurd hentry (by simp)
  | retired entry' hbefore hoffline hpending hretired hevents honce =>
    rw [hpending] at hentry
    exact absurd hentry (by simp)

/-- A timer receives no registration. -/
theorem FireRetire.notMem_events (hfire : FireRetire dev timer result) {d : DeviceId} :
    .registerReceived d ∉ result.2 := by
  intro hmem
  cases hfire with
  | kept hpending hretired hevents => exact absurd (hevents _ hmem) (by simp [Event.aboutRetire])
  | refused entry hbefore hpending hretired hevents => exact absurd hmem (by simp [hevents])
  | retired entry hbefore hoffline hpending hretired hevents honce =>
    rcases hevents _ hmem with heq | heq
    · exact absurd heq (by simp)
    · exact absurd heq (by simp)

end Fire

/-- What is noted of a `REGISTER` is that it was received. -/
theorem aboutRetire_received {data : RegisterData} {event : Event}
    (hevent : event ∈ received data) :
    ∃ d, data.deviceId = .str d ∧ event = .registerReceived d := by
  unfold received at hevent
  split at hevent
  · rename_i d hd
    exact ⟨d, hd, List.mem_singleton.mp hevent⟩
  · exact absurd hevent (by simp)

section Steps

variable {s : State} {ws : Socket} {h : Handler} {d : DeviceId} {label : Label} {turn : Turn}

/-- A turn that leaves the retire alone, or drops it. -/
theorem retireStep_of_kept
    (hpending : turn.device.pendingRetire = (s.devices d).pendingRetire ∨
      turn.device.pendingRetire = none)
    (hevents : ∀ event ∈ turn.events, event.aboutRetire = false ∨
      ∃ d, event = .registerReceived d) : RetireStep s (s.apply ws d turn) := by
  refine .kept turn.events rfl hevents fun d' => ?_
  rcases eq_or_ne d' d with rfl | hne
  · rw [State.apply_devices_self]
    exact hpending
  · rw [State.apply_devices_of_ne _ _ _ _ hne]
    exact .inl rfl

/-- Every turn is a retire step. -/
theorem TurnOf.retireStep (hturn : TurnOf s ws h d label turn) :
    RetireStep s (s.apply ws d turn) := by
  have hother : ∀ d', d' ≠ d →
      ((s.apply ws d turn).devices d').pendingRetire = (s.devices d').pendingRetire := by
    intro d' hne
    rw [State.apply_devices_of_ne _ _ _ _ hne]
  rcases hturn.retire with hretire | ⟨data, saved, -, -, -, hpending, hevents⟩
  · cases hretire with
    | kept hpending hevents =>
      exact retireStep_of_kept (.inl hpending) fun event hevent => .inl (hevents event hevent)
    | dropped hpending hevents =>
      exact retireStep_of_kept (.inr hpending) fun event hevent => .inl (hevents event hevent)
    | announced entry hentry hpending hevents =>
      refine .announced d entry hentry rfl (by rw [State.apply_log, hevents]) ?_ hother
      rw [State.apply_devices_self]
      exact hpending
    | refused entry hbefore hpending hevents =>
      refine .settled d entry _ rfl hbefore ?_ ?_ (.inl hevents) ?_ hother
      · simp [hevents]
      · simp [hevents, Event.settles]
      · rw [State.apply_devices_self]
        exact hpending
  · refine retireStep_of_kept (.inl hpending) fun event hevent => ?_
    rcases hevents event hevent with hreceived | habout
    · obtain ⟨d', -, hd'⟩ := aboutRetire_received hreceived
      exact .inr ⟨d', hd'⟩
    · exact .inl habout

/-- So is a change that only forgets retirements. -/
theorem retireStep_of_devices {s' : State} (hlog : s'.log = s.log)
    (hpending : ∀ d, (s'.devices d).pendingRetire = (s.devices d).pendingRetire ∨
      (s'.devices d).pendingRetire = none) : RetireStep s s' :=
  .kept [] (by rw [hlog, List.append_nil]) (by simp) hpending

/-- And every step. -/
theorem step_retireStep (s : State) (label : Label) : RetireStep s (s.step label) := by
  have hhappens := step_happens s label
  generalize s.step label = s' at hhappens
  cases hhappens with
  | nothing => exact retireStep_of_devices rfl fun _ => .inl rfl
  | connected ws remote hnew => exact .kept [] rfl (by simp) fun _ => .inl rfl
  | parked _ ws h h' events hsocket hhandler hid hclaim hbefore hafter hclosed hevents =>
    refine .kept events rfl (fun event hevent => ?_) fun _ => .inl rfl
    obtain ⟨data, saved, -, -, hreceived, -⟩ := hevents event hevent
    obtain ⟨d, -, hd⟩ := aboutRetire_received hreceived
    exact .inr ⟨d, hd⟩
  | turned _ ws h d turn hhandler hid hturn => exact hturn.retireStep
  | claimed ws data saved h kind d version hhandler hreceive hrequest =>
    have hclaim := retire_claimDevice ws (s.devices d) h s.time kind d version saved
    refine retireStep_of_kept (.inl hclaim.1) fun event hevent => ?_
    rcases List.mem_append.mp hevent with hreceived | hevent
    · obtain ⟨d', -, hd'⟩ := aboutRetire_received hreceived
      exact .inr ⟨d', hd'⟩
    · exact .inl (hclaim.2.2 event hevent)
  | fired t saved timer htimer =>
    have hconnection := connection_fire (s.devices timer.deviceId) timer saved
    have hother : ∀ d', d' ≠ timer.deviceId →
        (Function.update s.devices timer.deviceId
          (fire (s.devices timer.deviceId) timer saved).1 d').pendingRetire =
        (s.devices d').pendingRetire := by
      intro d' hne
      rw [Function.update_of_ne hne]
    cases fire_retire (s.devices timer.deviceId) timer saved with
    | kept hpending hretired hevents =>
      refine .kept _ rfl (fun event hevent => .inl (hevents event hevent)) fun d' => ?_
      rcases eq_or_ne d' timer.deviceId with rfl | hne
      · exact .inl (by simp only [Function.update_self, hpending])
      · exact .inl (hother d' hne)
    | refused entry hbefore hpending hretired hevents =>
      refine .settled timer.deviceId entry _ rfl hbefore ?_ ?_ (.inl hevents) ?_ hother
      · simp [hevents]
      · simp [hevents, Event.settles]
      · simp only [Function.update_self, hpending]
    | retired entry hbefore hoffline hpending hretired hevents honce =>
      refine .settled timer.deviceId entry _ rfl hbefore ?_ honce (.inr ⟨hoffline, ?_⟩) ?_ hother
      · intro event hevent
        exact (hevents event hevent).imp id fun hresult => ⟨true, hresult⟩
      · simp only [Function.update_self, hconnection, hoffline]
      · simp only [Function.update_self, hpending]
  | forgotten d hoffline =>
    refine retireStep_of_devices rfl fun d' => ?_
    rcases eq_or_ne d' d with rfl | hne
    · exact .inr (by simp only [Function.update_self])
    · exact .inl (by simp only [Function.update_of_ne hne])
  | transferred _ d dispatch transfers hsocket =>
    refine retireStep_of_devices rfl fun d' => .inl ?_
    rcases eq_or_ne d' d with rfl | hne
    · simp only [Function.update_self]
    · simp only [Function.update_of_ne hne]
  | restarted registry => exact retireStep_of_devices rfl fun _ => .inr rfl

end Steps

/-! ### Each announcement is settled at most once -/

/-- Time does not go back. -/
theorem time_le_step (s : State) (label : Label) : s.time ≤ (s.step label).time := by
  have hhappens := step_happens s label
  generalize s.step label = s' at hhappens
  cases hhappens with
  | nothing => exact le_rfl
  | connected => exact Nat.le_succ _
  | parked => exact Nat.le_succ _
  | turned => exact Nat.le_succ _
  | claimed => exact Nat.le_succ _
  | fired => exact Nat.le_succ _
  | forgotten => exact Nat.le_succ _
  | transferred => exact Nat.le_succ _
  | restarted => exact Nat.le_succ _

/-- What is pending has not been settled, and what has been settled stays so. -/
structure Settled (s : State) : Prop where
  pending_lt : ∀ d entry, (s.devices d).pendingRetire = some entry → entry.announcement < s.time
  distinct : ∀ d d' entry entry', (s.devices d).pendingRetire = some entry →
    (s.devices d').pendingRetire = some entry' → entry.announcement = entry'.announcement → d = d'
  announced_lt : ∀ a d, .retireAnnounced a d ∈ s.log → a < s.time
  fresh : ∀ a, s.time ≤ a → s.log.countP (Event.settles a) = 0
  once : ∀ a, s.log.countP (Event.settles a) ≤ 1
  unsettled : ∀ d entry, (s.devices d).pendingRetire = some entry →
    s.log.countP (Event.settles entry.announcement) = 0

/-- Nothing is pending at the start. -/
theorem Settled.initial : Settled {} := by
  refine ⟨?_, ?_, ?_, ?_, ?_, ?_⟩ <;> simp

/-- A step settles at most what is pending. -/
theorem Settled.step {s : State} (hs : Settled s) (label : Label) : Settled (s.step label) := by
  have htime := time_le_step s label
  cases step_retireStep s label with
  | kept events hlog hevents hpending =>
    have hbefore : ∀ {d entry}, ((s.step label).devices d).pendingRetire = some entry →
        (s.devices d).pendingRetire = some entry := by
      intro d entry hentry
      rcases hpending d with heq | hnone
      · rwa [heq] at hentry
      · rw [hnone] at hentry
        exact absurd hentry (by simp)
    have hcount : ∀ a, (s.step label).log.countP (Event.settles a) =
        s.log.countP (Event.settles a) := by
      intro a
      rw [hlog, List.countP_append, Nat.add_eq_left, List.countP_eq_zero]
      intro event hevent
      rcases hevents event hevent with habout | ⟨d, rfl⟩
      · cases event <;> simp_all [Event.aboutRetire, Event.settles]
      · simp [Event.settles]
    refine ⟨?_, ?_, ?_, ?_, ?_, ?_⟩
    · intro d entry hentry
      exact (hs.pending_lt d entry (hbefore hentry)).trans_le htime
    · intro d d' entry entry' hentry hentry'
      exact hs.distinct d d' entry entry' (hbefore hentry) (hbefore hentry')
    · intro a d hmem
      rw [hlog, List.mem_append] at hmem
      rcases hmem with hmem | hmem
      · exact (hs.announced_lt a d hmem).trans_le htime
      · rcases hevents _ hmem with habout | ⟨d', hd'⟩
        · exact absurd habout (by simp [Event.aboutRetire])
        · exact absurd hd' (by simp)
    · intro a ha
      rw [hcount]
      exact hs.fresh a (htime.trans ha)
    · intro a
      rw [hcount]
      exact hs.once a
    · intro d entry hentry
      rw [hcount]
      exact hs.unsettled d entry (hbefore hentry)
  | announced d entry hentry hnext hlog hpending hother =>
    -- the new entry is the only one with its number
    have hcases : ∀ {d' entry'}, ((s.step label).devices d').pendingRetire = some entry' →
        (d' = d ∧ entry'.announcement = s.time) ∨
          ((s.devices d').pendingRetire = some entry' ∧ entry'.announcement < s.time) := by
      intro d' entry' hentry'
      rcases eq_or_ne d' d with rfl | hne
      · rw [hpending, Option.some_inj] at hentry'
        exact .inl ⟨rfl, hentry' ▸ hentry⟩
      · rw [hother d' hne] at hentry'
        exact .inr ⟨hentry', hs.pending_lt d' entry' hentry'⟩
    have hcount : ∀ a, (s.step label).log.countP (Event.settles a) =
        s.log.countP (Event.settles a) := by
      intro a
      rw [hlog, List.countP_append]
      simp [Event.settles]
    refine ⟨?_, ?_, ?_, ?_, ?_, ?_⟩
    · intro d' entry' hentry'
      rcases hcases hentry' with ⟨-, heq⟩ | ⟨-, hlt⟩ <;> omega
    · intro d₁ d₂ entry₁ entry₂ hentry₁ hentry₂ heq
      rcases hcases hentry₁ with ⟨rfl, heq₁⟩ | ⟨hentry₁, hlt₁⟩
      · rcases hcases hentry₂ with ⟨rfl, -⟩ | ⟨-, hlt₂⟩
        · rfl
        · omega
      · rcases hcases hentry₂ with ⟨rfl, heq₂⟩ | ⟨hentry₂, -⟩
        · omega
        · exact hs.distinct d₁ d₂ entry₁ entry₂ hentry₁ hentry₂ heq
    · intro a d' hmem
      rw [hlog, List.mem_append, List.mem_singleton] at hmem
      rcases hmem with hmem | heq
      · exact (hs.announced_lt a d' hmem).trans_le htime
      · simp only [Event.retireAnnounced.injEq] at heq
        omega
    · intro a ha
      rw [hcount]
      exact hs.fresh a (htime.trans ha)
    · intro a
      rw [hcount]
      exact hs.once a
    · intro d' entry' hentry'
      rw [hcount]
      rcases hcases hentry' with ⟨-, heq⟩ | ⟨hentry', -⟩
      · exact hs.fresh _ heq.ge
      · exact hs.unsettled d' entry' hentry'
  | settled d entry events hlog hbefore hevents honce hoffline hpending hother =>
    have hcases : ∀ {d' entry'}, ((s.step label).devices d').pendingRetire = some entry' →
        (s.devices d').pendingRetire = some entry' ∧
          entry'.announcement ≠ entry.announcement := by
      intro d' entry' hentry'
      rcases eq_or_ne d' d with rfl | hne
      · rw [hpending] at hentry'
        exact absurd hentry' (by simp)
      · rw [hother d' hne] at hentry'
        exact ⟨hentry', fun heq => hne (hs.distinct d' d entry' entry hentry' hbefore heq)⟩
    have hcount : ∀ a, a ≠ entry.announcement →
        (s.step label).log.countP (Event.settles a) = s.log.countP (Event.settles a) := by
      intro a hne
      rw [hlog, List.countP_append, Nat.add_eq_left, List.countP_eq_zero]
      intro event hevent
      rcases hevents event hevent with rfl | ⟨success, rfl⟩
      · simp [Event.settles]
      · simp [Event.settles, hne.symm]
    have hlt := hs.pending_lt d entry hbefore
    refine ⟨?_, ?_, ?_, ?_, ?_, ?_⟩
    · intro d' entry' hentry'
      exact (hs.pending_lt d' entry' (hcases hentry').1).trans_le htime
    · intro d₁ d₂ entry₁ entry₂ hentry₁ hentry₂
      exact hs.distinct d₁ d₂ entry₁ entry₂ (hcases hentry₁).1 (hcases hentry₂).1
    · intro a d' hmem
      rw [hlog, List.mem_append] at hmem
      rcases hmem with hmem | hmem
      · exact (hs.announced_lt a d' hmem).trans_le htime
      · rcases hevents _ hmem with heq | ⟨success, heq⟩
        · exact absurd heq (by simp)
        · exact absurd heq (by simp)
    · intro a ha
      rw [hcount a (by omega)]
      exact hs.fresh a (htime.trans ha)
    · intro a
      rcases eq_or_ne a entry.announcement with rfl | hne
      · rw [hlog, List.countP_append, hs.unsettled d entry hbefore]
        omega
      · rw [hcount a hne]
        exact hs.once a
    · intro d' entry' hentry'
      rw [hcount _ (hcases hentry').2]
      exact hs.unsettled d' entry' (hcases hentry').1

/-! ### A connected device is not retired -/

/-- What a step does to the flag of a device. -/
theorem retired_step (s : State) (label : Label) (d : DeviceId) :
    (((s.step label).devices d).retired = (s.devices d).retired ∧
      ((s.devices d).connection = none → ((s.step label).devices d).connection = none)) ∨
    ((s.step label).devices d).retired = some false ∨
    (((s.step label).devices d).connection = none ∧
      (((s.step label).devices d).retired = some true →
        (∃ registry, label = .restart registry) ∨
          ∃ events a, (s.step label).log = s.log ++ events ∧ .retireFlagged a d ∈ events)) := by
  have hhappens := step_happens s label
  generalize s.step label = s' at hhappens
  cases hhappens with
  | nothing => exact .inl ⟨rfl, id⟩
  | connected ws remote hnew => exact .inl ⟨rfl, id⟩
  | parked _ ws h h' events hsocket hhandler hid hclaim hbefore hafter hclosed hevents =>
    exact .inl ⟨rfl, id⟩
  | turned _ ws h d' turn hhandler hid hturn =>
    rcases eq_or_ne d d' with rfl | hne
    · rw [State.apply_devices_self]
      refine .inl ⟨hturn.retired, fun hnone => ?_⟩
      by_contra hsome
      obtain ⟨c, hc⟩ := Option.ne_none_iff_exists'.mp hsome
      obtain ⟨c', hc', -⟩ := hturn.orderly.connection c hc
      rw [hnone] at hc'
      exact absurd hc' (by simp)
    · rw [State.apply_devices_of_ne _ _ _ _ hne]
      exact .inl ⟨rfl, id⟩
  | claimed ws data saved h kind d' version hhandler hreceive hrequest =>
    rcases eq_or_ne d d' with rfl | hne
    · rw [State.apply_devices_self]
      exact .inr (.inl (retire_claimDevice ws (s.devices d) h s.time kind d version saved).2.1)
    · rw [State.apply_devices_of_ne _ _ _ _ hne]
      exact .inl ⟨rfl, id⟩
  | fired t saved timer htimer =>
    rcases eq_or_ne d timer.deviceId with rfl | hne
    · have hconnection := connection_fire (s.devices timer.deviceId) timer saved
      simp only [Function.update_self]
      cases fire_retire (s.devices timer.deviceId) timer saved with
      | kept hpending hretired hevents => exact .inl ⟨hretired, hconnection.trans⟩
      | refused entry hbefore hpending hretired hevents => exact .inl ⟨hretired, hconnection.trans⟩
      | retired entry hbefore hoffline hpending hretired hevents honce =>
        refine .inr (.inr ⟨hconnection.trans hoffline, fun htrue => .inr ?_⟩)
        exact ⟨_, entry.announcement, rfl, hretired htrue⟩
    · simp only [Function.update_of_ne hne]
      exact .inl ⟨trivial, id⟩
  | forgotten d' hoffline =>
    rcases eq_or_ne d d' with rfl | hne
    · simp only [Function.update_self]
      exact .inr (.inr ⟨hoffline, by simp⟩)
    · simp only [Function.update_of_ne hne]
      exact .inl ⟨trivial, id⟩
  | transferred _ d' dispatch transfers hsocket =>
    rcases eq_or_ne d d' with rfl | hne
    · simp only [Function.update_self]
      exact .inl ⟨trivial, id⟩
    · simp only [Function.update_of_ne hne]
      exact .inl ⟨trivial, id⟩
  | restarted registry => exact .inr (.inr ⟨rfl, fun _ => .inl ⟨registry, rfl⟩⟩)

/-- A connected device is not flagged as retired. -/
def Present (s : State) : Prop :=
  ∀ d c, (s.devices d).connection = some c → (s.devices d).retired ≠ some true

/-- A step flags no connected device. -/
theorem Present.step {s : State} (hs : Present s) (label : Label) : Present (s.step label) := by
  intro d c hc
  rcases retired_step s label d with ⟨hretired, hkept⟩ | hfalse | ⟨hnone, -⟩
  · rw [hretired]
    rcases hbefore : (s.devices d).connection with _ | c'
    · rw [hkept hbefore] at hc
      exact absurd hc (by simp)
    · exact hs d c' hbefore
  · simp [hfalse]
  · rw [hnone] at hc
    exact absurd hc (by simp)

/-! ### Silence -/

/-- Nothing has been heard of the device since the announcement. -/
def Silent (log : List Event) (announcement : Nat) (d : DeviceId) : Prop :=
  ∃ before after, log = before ++ .retireAnnounced announcement d :: after ∧
    .retireAnnounced announcement d ∉ before ∧ .registerReceived d ∉ after

/-- A device that is not heard stays silent. -/
theorem Silent.append {log events : List Event} {a : Nat} {d : DeviceId} (hlog : Silent log a d)
    (hevents : .registerReceived d ∉ events) : Silent (log ++ events) a d := by
  obtain ⟨before, after, rfl, hbefore, hafter⟩ := hlog
  refine ⟨before, after ++ events, by simp, hbefore, ?_⟩
  rw [List.mem_append]
  exact not_or_intro hafter hevents

/-- The `REGISTER` is for a socket that claims a device. -/
def Request.isClaim : Request → Bool
  | .claim _ _ _ => true
  | _ => false

/-- Does a resumed handler bring the registration to its end? It does not if the registration it
waits for is not completed, or if it ends and deletes the registration of another socket. -/
def Device.completes (dev : Device) (ws : Socket) : Point → Answer → Bool
  | .completing _, .done _ _ => true
  | .completing _, _ => !dev.ownedBy ws
  | .closing, .done _ _ => dev.ownedBy ws || dev.connection.isNone
  | _, _ => true

/-- While a retire of the device is pending, a `REGISTER` of the device claims it, the registration
is completed and it is not deleted by another socket's handler before that. -/
def State.retireSafe (s : State) : Label → Bool
  | .message ws (.register data) saved =>
    match s.handlers ws, data.deviceId with
    | some h, .str d =>
      (s.devices d).pendingRetire.isNone ||
        match h.point with
        | .receive => saved && (h.request data).isClaim
        | _ => true
    | _, _ => true
  | .resume ws answer =>
    match s.handlers ws with
    | none => true
    | some h =>
      match h.deviceId with
      | none => true
      | some d =>
        (s.devices d).pendingRetire.isNone || (s.devices d).completes ws h.point answer
  | _ => true

/-- The device has registered, and the pending retire is about to be resolved. -/
def Reregistering (s : State) (d : DeviceId) : Prop :=
  ∃ c h version, (s.devices d).connection = some c ∧ s.handlers c.ws = some h ∧
    h.deviceId = some d ∧ h.point = .completing version

/-- A device whose retire is pending has been silent, unless it is just registering. -/
structure Unheard (s : State) : Prop where
  pending : ∀ d entry, (s.devices d).pendingRetire = some entry →
    Silent s.log entry.announcement d ∨ Reregistering s d
  verdicts : ∀ before event after a d, s.log = before ++ event :: after →
    event = .retireResult a d true ∨ event = .retireFlagged a d → Silent before a d

section Silence

variable {s s' : State} {ws : Socket} {h h' : Handler} {d : DeviceId} {label : Label}

/-- A `REGISTER` of a device whose retire is pending claims the device. -/
theorem claim_of_retireSafe {data : RegisterData} {saved : Bool} {entry : PendingRetire}
    (hsafe : s.retireSafe (.message ws (.register data) saved) = true)
    (hhandler : s.handlers ws = some h) (hreceive : h.point = .receive)
    (hdata : data.deviceId = .str d) (hpending : (s.devices d).pendingRetire = some entry) :
    saved = true ∧ ∃ kind version, h.request data = .claim kind d version := by
  rw [State.retireSafe] at hsafe
  simp only [hhandler, hdata, hpending, hreceive, Option.isNone_some, Bool.false_or,
    Bool.and_eq_true] at hsafe
  refine ⟨hsafe.1, ?_⟩
  rcases hrequest : h.request data with _ | _ | _ | _ | ⟨kind, d', version⟩
  case claim =>
    have hd' := (Handler.request_eq_claim hrequest).2
    rw [hdata, Value.str.injEq] at hd'
    exact ⟨kind, version, by rw [hd']⟩
  all_goals
    rw [hrequest] at hsafe
    exact absurd hsafe.2 (by simp [Request.isClaim])

/-- What is pending stays so, and the registration that is under way goes on. -/
theorem Reregistering.of_handlers (hs : Reregistering s d)
    (hconnection : (s'.devices d).connection = (s.devices d).connection)
    (hhandlers : ∀ ws' g version, s.handlers ws' = some g → g.deviceId = some d →
      g.point = .completing version → s'.handlers ws' = some g) : Reregistering s' d := by
  obtain ⟨c, g, version, hc, hg, hd, hpoint⟩ := hs
  exact ⟨c, g, version, hconnection.trans hc, hhandlers _ g version hg hd hpoint, hd, hpoint⟩

/-- A handler that is resumed while a retire is pending. -/
theorem completes_of_retireSafe {answer : Answer} {entry : PendingRetire}
    (hsafe : s.retireSafe (.resume ws answer) = true) (hhandler : s.handlers ws = some h)
    (hid : h.deviceId = some d) (hpending : (s.devices d).pendingRetire = some entry) :
    (s.devices d).completes ws h.point answer = true := by
  rw [State.retireSafe] at hsafe
  simpa only [hhandler, hid, hpending, Option.isNone_some, Bool.false_or] using hsafe

/-- A handler in the middle of something is only resumed. -/
theorem TurnOf.answer {turn : Turn} (hturn : TurnOf s ws h d label turn)
    (hpoint : h.point ≠ .receive) :
    ∃ answer, label = .resume ws answer ∧
      turn = Connections.resume ws (s.devices d) h s.time d h.point answer := by
  cases hturn with
  | message message saved hreceive hown => exact absurd hreceive hpoint
  | raise data saved hreceive hrequest => exact absurd hreceive hpoint
  | close hreceive => exact absurd hreceive hpoint
  | resume answer => exact ⟨answer, rfl, rfl⟩

/-- The registration that is under way resolves the retire. -/
theorem pendingRetire_of_completing {turn : Turn} {version : Option Int} {entry : PendingRetire}
    (hhandler : s.handlers ws = some h) (hid : h.deviceId = some d)
    (hturn : TurnOf s ws h d label turn) (hsafe : s.retireSafe label = true)
    (hpending : (s.devices d).pendingRetire = some entry)
    (hown : (s.devices d).ownedBy ws = true) (hpoint : h.point = .completing version) :
    turn.device.pendingRetire = none := by
  obtain ⟨answer, rfl, rfl⟩ := hturn.answer (by simp [hpoint])
  have hcompletes := completes_of_retireSafe hsafe hhandler hid hpending
  rw [hpoint] at hcompletes ⊢
  rcases answer with ⟨ready, hashes⟩ | _ | _
  · rw [resume, if_pos hown]
    exact pendingRetire_resolvePendingRetire
  · exact absurd hcompletes (by simp [Device.completes, hown])
  · exact absurd hcompletes (by simp [Device.completes, hown])

/-- A superseded handler leaves the registration alone. -/
theorem connection_of_superseded {turn : Turn} {entry : PendingRetire} {c : Connection}
    (hhandler : s.handlers ws = some h) (hid : h.deviceId = some d)
    (hturn : TurnOf s ws h d label turn) (hsafe : s.retireSafe label = true)
    (hpending : (s.devices d).pendingRetire = some entry)
    (hc : (s.devices d).connection = some c) (hne : c.ws ≠ ws) :
    turn.device.connection = some c := by
  have hown : (s.devices d).ownedBy ws = false := by simp [Device.ownedBy, hc, hne]
  by_cases hpoint : h.point = .closing
  · obtain ⟨answer, rfl, rfl⟩ := hturn.answer (by simp [hpoint])
    have hcompletes := completes_of_retireSafe hsafe hhandler hid hpending
    rw [hpoint] at hcompletes ⊢
    rcases answer with ⟨ready, hashes⟩ | _ | _
    · exact absurd hcompletes (by simp [Device.completes, hown, hc])
    · exact hc
    · exact hc
  · exact (hturn.orderly.kept hown hpoint).trans hc

/-- Until the retire is resolved, the registration goes on. -/
theorem Reregistering.turn (hs : Reregistering s d) {d' : DeviceId} {turn : Turn}
    (hhandler : s.handlers ws = some h) (hid : h.deviceId = some d')
    (hturn : TurnOf s ws h d' label turn) (hsafe : s.retireSafe label = true)
      {entry : PendingRetire}
    (hpending : (s.devices d).pendingRetire = some entry)
    (hpending' : ((s.apply ws d' turn).devices d).pendingRetire ≠ none) :
    Reregistering (s.apply ws d' turn) d := by
  obtain ⟨c, g, version, hc, hg, hd, hpoint⟩ := hs
  rcases eq_or_ne c.ws ws with heq | hne
  · exfalso
    rw [heq, hhandler, Option.some_inj] at hg
    subst hg
    rw [hid, Option.some_inj] at hd
    subst hd
    rw [State.apply_devices_self] at hpending'
    exact hpending' (pendingRetire_of_completing hhandler hid hturn hsafe hpending
      (Device.ownedBy_iff.mpr ⟨c, hc, heq⟩) hpoint)
  · refine ⟨c, g, version, ?_, ?_, hd, hpoint⟩
    · rcases eq_or_ne d d' with rfl | hdevice
      · rw [State.apply_devices_self]
        exact connection_of_superseded hhandler hid hturn hsafe hpending hc hne
      · rw [State.apply_devices_of_ne _ _ _ _ hdevice]
        exact hc
    · rw [State.apply_handlers_of_ne _ _ _ _ hne]
      exact hg

/-- What a step may have received of the devices whose retire is pending. -/
theorem Unheard.keep (hs : Unheard s) {entry : PendingRetire} {events : List Event}
    (hpending : (s.devices d).pendingRetire = some entry) (hlog : s'.log = s.log ++ events)
    (hevents : .registerReceived d ∉ events)
      (hreregistering : Reregistering s d → Reregistering s' d) :
    Silent s'.log entry.announcement d ∨ Reregistering s' d := by
  rw [hlog]
  exact (hs.pending d entry hpending).imp (fun hsilent => hsilent.append hevents) hreregistering

/-- A `REGISTER` that does not claim a device names none whose retire is pending. -/
theorem notMem_received {data : RegisterData} {saved : Bool} {entry : PendingRetire}
    (hsafe : s.retireSafe (.message ws (.register data) saved) = true)
    (hhandler : s.handlers ws = some h) (hreceive : h.point = .receive)
    (hrequest : ∀ kind d version, h.request data ≠ .claim kind d version)
    (hpending : (s.devices d).pendingRetire = some entry) :
    .registerReceived d ∉ received data := by
  intro hmem
  obtain ⟨d', hdata, heq⟩ := aboutRetire_received hmem
  rw [Event.registerReceived.injEq] at heq
  obtain ⟨-, kind, version, hclaim⟩ :=
    claim_of_retireSafe hsafe hhandler hreceive (heq ▸ hdata) hpending
  exact hrequest kind d version hclaim

/-- A turn does not note a `REGISTER` of a device whose retire is pending. -/
theorem TurnOf.notMem_events {d' : DeviceId} {turn : Turn} {entry : PendingRetire}
    (hturn : TurnOf s ws h d' label turn) (hhandler : s.handlers ws = some h)
    (hsafe : s.retireSafe label = true) (hpending : (s.devices d).pendingRetire = some entry) :
    .registerReceived d ∉ turn.events := by
  intro hmem
  rcases hturn.retire with hretire | ⟨data, saved, rfl, hreceive, hrequest, -, hevents⟩
  · cases hretire with
    | kept _ hevents => exact absurd (hevents _ hmem) (by simp [Event.aboutRetire])
    | dropped _ hevents => exact absurd (hevents _ hmem) (by simp [Event.aboutRetire])
    | announced entry' _ _ hevents => exact absurd hmem (by simp [hevents])
    | refused entry' _ _ hevents => exact absurd hmem (by simp [hevents])
  · rcases hevents _ hmem with hreceived | habout
    · exact notMem_received hsafe hhandler hreceive (by simp [hrequest]) hpending hreceived
    · exact absurd habout (by simp [Event.aboutRetire])

/-- After a safe turn the device of a pending retirement is silent, or is being registered. -/
theorem Unheard.pending_turn (hs : Unheard s) (hsettled : Settled s)
    (hsafe : s.retireSafe label = true) (hhandler : s.handlers ws = some h) {d' : DeviceId}
    (hid : h.deviceId = some d') {turn : Turn} (hturn : TurnOf s ws h d' label turn)
    {entry : PendingRetire}
    (hentry : ((s.apply ws d' turn).devices d).pendingRetire = some entry) :
    Silent (s.apply ws d' turn).log entry.announcement d ∨
      Reregistering (s.apply ws d' turn) d := by
  -- a retire that was pending before
  have hkeep : (s.devices d).pendingRetire = some entry →
      Silent (s.apply ws d' turn).log entry.announcement d ∨
        Reregistering (s.apply ws d' turn) d := by
    intro hbefore
    exact hs.keep hbefore rfl (hturn.notMem_events hhandler hsafe hbefore) fun hre =>
      hre.turn hhandler hid hturn hsafe hbefore (by simp [hentry])
  rcases eq_or_ne d d' with rfl | hne
  · rw [State.apply_devices_self] at hentry
    rcases hturn.retire with hretire | ⟨data, saved, -, -, -, hpending, -⟩
    · cases hretire with
      | kept hpending hevents => exact hkeep (hpending ▸ hentry)
      | dropped hpending hevents =>
        rw [hpending] at hentry
        exact absurd hentry (by simp)
      | announced entry' hentry' hpending hevents =>
        rw [hpending, Option.some_inj] at hentry
        subst hentry
        refine .inl ⟨s.log, [], by rw [State.apply_log, hevents, hentry'], ?_, by simp⟩
        intro hmem
        have hlt := hsettled.announced_lt _ _ hmem
        omega
      | refused entry' hbefore hpending hevents =>
        rw [hpending] at hentry
        exact absurd hentry (by simp)
    · exact hkeep (hpending ▸ hentry)
  · rw [State.apply_devices_of_ne _ _ _ _ hne] at hentry
    exact hkeep hentry

/-- After a claim too. -/
theorem Unheard.pending_claim (hs : Unheard s) {data : RegisterData} {saved : Bool}
    {kind : IdentityKind} {d' : DeviceId} {version : Option Int} {turn : Turn}
    (hsafe : s.retireSafe (.message ws (.register data) saved) = true)
    (hhandler : s.handlers ws = some h) (hreceive : h.point = .receive)
    (hrequest : h.request data = .claim kind d' version)
    (hturn : turn = (claimDevice ws (s.devices d') h s.time kind d' version saved).after
      (received data)) {entry : PendingRetire}
    (hentry : ((s.apply ws d' turn).devices d).pendingRetire = some entry) :
    Silent (s.apply ws d' turn).log entry.announcement d ∨
      Reregistering (s.apply ws d' turn) d := by
  obtain ⟨hpending, -, hevents⟩ :=
    retire_claimDevice ws (s.devices d') h s.time kind d' version saved
  obtain ⟨hid, hdata⟩ := Handler.request_eq_claim hrequest
  rcases eq_or_ne d d' with rfl | hne
  · rw [State.apply_devices_self, hturn] at hentry
    obtain ⟨rfl, -⟩ :=
      claim_of_retireSafe hsafe hhandler hreceive hdata (hpending.symm.trans hentry)
    right
    rw [claimDevice, if_pos rfl] at hturn
    subst hturn
    exact ⟨_, _, version, by rw [State.apply_devices_self]; rfl, State.apply_handlers_self .., rfl,
      rfl⟩
  · rw [State.apply_devices_of_ne _ _ _ _ hne] at hentry
    refine hs.keep hentry rfl ?_ fun hre => ?_
    · rw [hturn]
      intro hmem
      rcases List.mem_append.mp hmem with hreceived | hmem
      · rw [received, hdata, List.mem_singleton, Event.registerReceived.injEq] at hreceived
        exact hne hreceived
      · exact absurd (hevents _ hmem) (by simp [Event.aboutRetire])
    · refine hre.of_handlers (by rw [State.apply_devices_of_ne _ _ _ _ hne]) ?_
      intro ws' g _ hg hgid _
      rw [State.apply_handlers_of_ne]
      · exact hg
      · rintro rfl
        rw [hhandler, Option.some_inj] at hg
        rw [← hg, hid] at hgid
        exact absurd hgid (by simp)

/-- So it is after every safe step. -/
theorem Unheard.pending_step (hs : Unheard s) (hsettled : Settled s)
    (hsafe : s.retireSafe label = true) {entry : PendingRetire}
    (hentry : ((s.step label).devices d).pendingRetire = some entry) :
    Silent (s.step label).log entry.announcement d ∨ Reregistering (s.step label) d := by
  have hhappens := step_happens s label
  generalize s.step label = s' at hhappens hentry
  cases hhappens with
  | nothing => exact hs.pending d entry hentry
  | connected ws remote hnew =>
    refine hs.keep hentry rfl (by simp) fun hre =>
      hre.of_handlers rfl fun ws' g version hg _ _ => ?_
    refine (Function.update_of_ne ?_ _ _).trans hg
    rintro rfl
    rw [hnew] at hg
    exact absurd hg (by simp)
  | parked _ ws h h' events hsocket hhandler hid hclaim hbefore hafter hclosed hevents =>
    refine hs.keep hentry rfl ?_ fun hre =>
      hre.of_handlers rfl fun ws' g version hg hgid hpoint => ?_
    · intro hmem
      obtain ⟨data, saved, rfl, hreceive, hreceived, hrequest⟩ := hevents _ hmem
      exact notMem_received hsafe hhandler hreceive hrequest hentry hreceived
    · refine (Function.update_of_ne ?_ _ _).trans hg
      rintro rfl
      rw [hhandler, Option.some_inj] at hg
      subst hg
      rcases hbefore with hreceive | hnone
      · rw [hreceive] at hpoint
        exact absurd hpoint (by simp)
      · rw [hnone] at hgid
        exact absurd hgid (by simp)
  | turned _ ws h d' turn hhandler hid hturn =>
    exact hs.pending_turn hsettled hsafe hhandler hid hturn hentry
  | claimed ws data saved h kind d' version hhandler hreceive hrequest =>
    exact hs.pending_claim hsafe hhandler hreceive hrequest rfl hentry
  | fired t saved timer htimer =>
    have hfire := fire_retire (s.devices timer.deviceId) timer saved
    have hbefore : (s.devices d).pendingRetire = some entry := by
      rcases eq_or_ne d timer.deviceId with rfl | hne
      · simp only [Function.update_self] at hentry
        exact hfire.pendingRetire hentry
      · simpa only [Function.update_of_ne hne] using hentry
    refine hs.keep hbefore rfl hfire.notMem_events fun hre =>
      hre.of_handlers ?_ fun _ _ _ hg _ _ => hg
    rcases eq_or_ne d timer.deviceId with rfl | hne
    · simp only [Function.update_self, connection_fire]
    · simp only [Function.update_of_ne hne]
  | forgotten d' hoffline =>
    rcases eq_or_ne d d' with rfl | hne
    · exact absurd hentry (by simp)
    · simp only [Function.update_of_ne hne] at hentry
      refine hs.keep hentry (List.append_nil _).symm (by simp) fun hre => ?_
      exact hre.of_handlers (by simp only [Function.update_of_ne hne]) fun _ _ _ hg _ _ => hg
  | transferred _ d' dispatch transfers hsocket =>
    rcases eq_or_ne d d' with rfl | hne
    · simp only [Function.update_self] at hentry
      refine hs.keep hentry (List.append_nil _).symm (by simp) fun hre => ?_
      exact hre.of_handlers (by simp only [Function.update_self]) fun _ _ _ hg _ _ => hg
    · simp only [Function.update_of_ne hne] at hentry
      refine hs.keep hentry (List.append_nil _).symm (by simp) fun hre => ?_
      exact hre.of_handlers (by simp only [Function.update_of_ne hne]) fun _ _ _ hg _ _ => hg
  | restarted registry => exact absurd hentry (by simp)

/-- A verdict is the timer's, on a device that is not connected. -/
theorem RetireStep.verdict (hstep : RetireStep s s') {events : List Event}
    (hlog : s'.log = s.log ++ events) {a : Nat}
    (hmem : .retireResult a d true ∈ events ∨ .retireFlagged a d ∈ events) :
    (s.devices d).connection = none ∧ (s'.devices d).connection = none ∧
    ∃ entry, (s.devices d).pendingRetire = some entry ∧ entry.announcement = a ∧
      .registerReceived d ∉ events := by
  cases hstep with
  | kept events' hlog' hevents hpending =>
    obtain rfl := List.append_cancel_left (hlog.symm.trans hlog')
    rcases hmem with hmem | hmem
    · rcases hevents _ hmem with habout | ⟨d', hd'⟩
      · exact absurd habout (by simp [Event.aboutRetire])
      · exact absurd hd' (by simp)
    · rcases hevents _ hmem with habout | ⟨d', hd'⟩
      · exact absurd habout (by simp [Event.aboutRetire])
      · exact absurd hd' (by simp)
  | announced d' entry hentry htime hlog' hpending hother =>
    obtain rfl := List.append_cancel_left (hlog.symm.trans hlog')
    exact absurd hmem (by simp)
  | settled d' entry events' hlog' hbefore hevents honce hoffline hpending hother =>
    obtain rfl := List.append_cancel_left (hlog.symm.trans hlog')
    have hsame : entry.announcement = a ∧ d' = d := by
      rcases hmem with hmem | hmem
      · rcases hevents _ hmem with heq | ⟨success, heq⟩
        · exact absurd heq (by simp)
        · simp only [Event.retireResult.injEq] at heq
          exact ⟨heq.1.symm, heq.2.1.symm⟩
      · rcases hevents _ hmem with heq | ⟨success, heq⟩
        · simp only [Event.retireFlagged.injEq] at heq
          exact ⟨heq.1.symm, heq.2.symm⟩
        · exact absurd heq (by simp)
    obtain ⟨rfl, rfl⟩ := hsame
    rcases hoffline with hrefused | ⟨hnone, hnone'⟩
    · rw [hrefused] at hmem
      exact absurd hmem (by simp)
    · refine ⟨hnone, hnone', entry, hbefore, rfl, fun hregister => ?_⟩
      rcases hevents _ hregister with heq | ⟨success, heq⟩
      · exact absurd heq (by simp)
      · exact absurd heq (by simp)

/-- **A safe step keeps the invariant.** -/
theorem Unheard.step (hs : Unheard s) (hsettled : Settled s) (hsafe : s.retireSafe label = true) :
    Unheard (s.step label) := by
  refine ⟨fun d entry hentry => hs.pending_step hsettled hsafe hentry, ?_⟩
  intro before event after a d hlog hevent
  obtain ⟨events, hstep⟩ : ∃ events, (s.step label).log = s.log ++ events := by
    cases step_retireStep s label with
    | kept events hlog hevents hpending => exact ⟨events, hlog⟩
    | announced d entry hentry htime hlog hpending hother => exact ⟨_, hlog⟩
    | settled d entry events hlog hbefore hevents honce hoffline hpending hother =>
      exact ⟨events, hlog⟩
  -- a verdict of this step
  have hnew : ∀ early, events = early ++ event :: after → Silent (s.log ++ early) a d := by
    intro early hevents
    have hmem : .retireResult a d true ∈ events ∨ .retireFlagged a d ∈ events := by
      rw [hevents]
      rcases hevent with rfl | rfl
      · exact .inl (by simp)
      · exact .inr (by simp)
    obtain ⟨hoffline, -, entry, hentry, rfl, hregister⟩ :=
      (step_retireStep s label).verdict hstep hmem
    rcases hs.pending d entry hentry with hsilent | ⟨c, g, version, hc, -⟩
    · refine hsilent.append fun hearly => hregister ?_
      rw [hevents]
      exact List.mem_append_left _ hearly
    · rw [hoffline] at hc
      exact absurd hc (by simp)
  rw [hstep, List.append_eq_append_iff] at hlog
  rcases hlog with ⟨early, rfl, hevents⟩ | ⟨rest, hlog, hrest⟩
  · exact hnew early hevents
  · rcases rest with _ | ⟨event', rest⟩
    · rw [List.append_nil] at hlog
      rw [← hlog, ← List.append_nil s.log]
      exact hnew [] hrest.symm
    · rw [List.cons_append, List.cons.injEq] at hrest
      exact hs.verdicts before event rest a d (by rw [hlog, hrest.1]) hevent

end Silence

/-- As long as every `REGISTER` of a device whose retire is pending claims the device, is completed
and is not deleted before that by the handler of another socket, a device is taken for removed only
when nothing has been heard of it since the announcement and it is not connected. Each announcement
is settled at most once, and a connected device is not flagged as retired. -/
theorem retire_verdicts_right (labels : List Label)
    (hsafe : Run.Along State.step (fun s label => s.retireSafe label = true) {} labels) :
    (∀ before event after a d,
      (Run.exec State.step {} labels).log = before ++ event :: after →
      event = .retireResult a d true ∨ event = .retireFlagged a d → Silent before a d) ∧
    (∀ label events a d,
      ((Run.exec State.step {} labels).step label).log =
        (Run.exec State.step {} labels).log ++ events →
      .retireResult a d true ∈ events ∨ .retireFlagged a d ∈ events →
      ((Run.exec State.step {} labels).devices d).connection = none ∧
        (((Run.exec State.step {} labels).step label).devices d).connection = none) ∧
    (∀ label d, (∀ registry, label ≠ .restart registry) →
      ((Run.exec State.step {} labels).devices d).retired ≠ some true →
      (((Run.exec State.step {} labels).step label).devices d).retired = some true →
      ∃ events a, ((Run.exec State.step {} labels).step label).log =
        (Run.exec State.step {} labels).log ++ events ∧ .retireFlagged a d ∈ events) ∧
    (∀ a, (Run.exec State.step {} labels).log.countP (Event.settles a) ≤ 1) ∧
    ∀ d c, ((Run.exec State.step {} labels).devices d).connection = some c →
      ((Run.exec State.step {} labels).devices d).retired ≠ some true := by
  have hs : Settled (Run.exec State.step {} labels) ∧ Unheard (Run.exec State.step {} labels) := by
    refine hsafe.invariant (I := fun s => Settled s ∧ Unheard s) ?_ ⟨.initial, ⟨by simp, by simp⟩⟩
    intro s label hs hstep
    exact ⟨hs.1.step label, hs.2.step hs.1 hstep⟩
  have hpresent : Present (Run.exec State.step {} labels) :=
    hsafe.invariant (I := Present) (fun s label hs _ => hs.step label) (by simp [Present])
  generalize Run.exec State.step {} labels = s at hs hpresent
  refine ⟨hs.2.verdicts, ?_, ?_, hs.1.once, hpresent⟩
  · intro label events a d hlog hmem
    obtain ⟨hbefore, hafter, -⟩ := (step_retireStep s label).verdict hlog hmem
    exact ⟨hbefore, hafter⟩
  · intro label d hlabel hbefore hafter
    rcases retired_step s label d with ⟨hsame, -⟩ | hfalse | ⟨-, hflagged⟩
    · rw [hsame] at hafter
      exact absurd hafter hbefore
    · rw [hfalse] at hafter
      exact absurd hafter (by simp)
    · rcases hflagged hafter with ⟨registry, heq⟩ | hflagged
      · exact absurd heq (hlabel registry)
      · exact hflagged

/-- The sample device announces that it removes its client. -/
def announcedRetire : List Label :=
  [.connect 0 none, .message 0 (registerSample 1) true, .resume 0 completed, .resume 0 completed,
    .message 0 (.selfUninstallStarting (.str (ofString "c"))) true]

/-- The device is not heard of again. -/
def retiredInSilence : List Label :=
  announcedRetire ++ [.close 0, .fire 4 true]

/-- The run of a device that is flagged after its silence. -/
theorem retire_verdicts_right_silence :
    (Run.exec State.step {} retiredInSilence).log =
      [.registerReceived sampleId, .retireAnnounced 4 sampleId, .retireFlagged 4 sampleId] ++
        .retireResult 4 sampleId true :: [] ∧
    Silent [.registerReceived sampleId, .retireAnnounced 4 sampleId, .retireFlagged 4 sampleId] 4
      sampleId := by
  have hlog : (Run.exec State.step {} retiredInSilence).log =
      [.registerReceived sampleId, .retireAnnounced 4 sampleId, .retireFlagged 4 sampleId] ++
        .retireResult 4 sampleId true :: [] := by decide +kernel
  exact ⟨hlog, (retire_verdicts_right retiredInSilence (by decide +kernel)).1 _ _ _ 4 sampleId hlog
    (.inl rfl)⟩

/-- The device registers again, but its registration is not completed. -/
def retiredAfterRegister : List Label :=
  announcedRetire ++
    [.connect 1 none, .message 1 (registerSample 1) true, .resume 1 .failed, .close 0, .fire 4 true]

/-- The device is taken for removed although it has registered after its announcement. -/
theorem retired_after_register :
    (Run.exec State.step {} retiredAfterRegister).log =
      [.registerReceived sampleId, .retireAnnounced 4 sampleId, .registerReceived sampleId,
        .retireFlagged 4 sampleId] ++ .retireResult 4 sampleId true :: [] ∧
    ((Run.exec State.step {} retiredAfterRegister).devices sampleId).retired = some true ∧
    ¬ Silent [.registerReceived sampleId, .retireAnnounced 4 sampleId, .registerReceived sampleId,
        .retireFlagged 4 sampleId] 4 sampleId := by
  refine ⟨by decide +kernel, by decide +kernel, ?_⟩
  rintro ⟨before, after, hlog, hbefore, hafter⟩
  rcases before with _ | ⟨first, before⟩
  · exact absurd hlog (by simp)
  · rcases before with _ | ⟨second, before⟩
    · simp only [List.singleton_append, List.cons.injEq] at hlog
      exact hafter (by simp [← hlog.2.2])
    · simp only [List.cons_append, List.cons.injEq] at hlog
      exact hbefore (by simp [hlog.2.1])

end StylyMdm.Connections
