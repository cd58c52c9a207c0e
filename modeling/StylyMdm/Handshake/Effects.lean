import StylyMdm.Handshake.Sound

/-!
# What a move leaves behind

`Effect` is what the rest of the development uses of a move of a handler: the books stay in order,
its own entries become ready only after the frame that says so, and the entries of other sockets
stay as they are or go.

There is one lemma for each kind of move, `Move.effect` collects them. Most moves change nothing or
leave; the ones with an argument are those of a registration: a provisional entry is made, a device
is claimed, a session replaces another one, the client is told, and the entry is made ready. In each
of them what has to be shown is that no other socket is given anything.

The effect of a move does not say which await ended or how. What the client hears is the concern of
`Handshake.Downstream`, and nothing there looks at a handler again.
-/

namespace StylyMdm.Handshake

open Text Py Registry

namespace Server

variable {s t : Server} {ws ws' : Socket} {h h' : Handler} {deviceId : DeviceId}

/-- A move of the handler `h` of `ws` to `h'`. -/
structure Effect (s : Server) (ws : Socket) (h : Handler) (s' : Server) (h' : Handler)
    (frame : Option Down) : Prop where
  sound : s'.Sound
  sending : s'.sending = s.sending
  handler : s'.handlers = Function.update s.handlers ws (some h')
  grows : h.Extends h'
  provisional : ∀ ws' ≠ ws, s'.provisional ws' = s.provisional ws'
  devices : ∀ deviceId entry, s'.devices deviceId = some entry → entry.ws ≠ ws →
    s.devices deviceId = some entry
  /-- Its entry is ready when the `REGISTERED` has been written. -/
  ready : ∀ deviceId entry, s'.devices deviceId = some entry → entry.ws = ws →
    entry.registrationReady = true → s.devices deviceId = some entry ∨ h.point = .acknowledged
  readyProvisional : ∀ entry, s'.provisional ws = some entry → entry.registrationReady = true →
    (∃ entry', s.provisional ws = some entry' ∧ entry'.registrationReady = true ∧
      entry'.connectionId = entry.connectionId) ∨ h.point = .issued entry.connectionId
  issued : ∀ connectionId, h'.point = .issued connectionId →
    frame = some (.registeredProvisional connectionId)
  acknowledged : h'.point = .acknowledged → frame = some .registered
  registered : frame = some .registered → h'.deviceId ≠ none
  registeredProvisional : ∀ connectionId, frame = some (.registeredProvisional connectionId) →
    h'.issued = some connectionId ∧ World.isHex connectionId = true
  command : ∀ command, frame ≠ some (.command command)

/-- What a move leaves of the provisional entry of its socket, on the way to `point`. -/
structure Kept (s : Server) (ws : Socket) (h : Handler) (s' : Server) (point : Point) : Prop where
  entry : ∀ entry, s.provisional ws = some entry → point.IsOver ∨
    ∃ entry', s'.provisional ws = some entry' ∧ entry'.identity = entry.identity ∧
      entry'.capabilities = entry.capabilities
  ended : h.point.IsOver → point.IsOver

/-- A move that only goes to another point. -/
theorem Sound.effect_park {point : Point} {frame : Option Down} (hs : s.Sound)
    (hw : s.handlers ws = some h) (hat : s.At ws { h with point := point } point)
    (hissued : ∀ connectionId, point = .issued connectionId →
      frame = some (.registeredProvisional connectionId) ∧ h.issued = some connectionId ∧
        World.isHex connectionId = true)
    (hacknowledged : point = .acknowledged → frame = some .registered)
    (hframe : frame = none ∨ frame = some .error ∨ (frame = some .registered ∧ h.deviceId ≠ none) ∨
      ∃ connectionId, point = .issued connectionId ∧
        frame = some (.registeredProvisional connectionId)) :
    Effect s ws h (s.park ws h point) { h with point := point } frame where
  sound := hs.park hw (hs.unchanged hw h.point)
    (fun deviceId hpush => hs.push ws h deviceId hw hpush)
    hat
  sending := rfl
  handler := rfl
  grows := .refl h point
  provisional _ _ := rfl
  devices _ _ heq _ := heq
  ready _ _ heq _ _ := .inl heq
  readyProvisional entry heq hready := .inl ⟨entry, heq, hready, rfl⟩
  issued connectionId heq := (hissued connectionId heq).1
  acknowledged heq := hacknowledged heq
  registered heq := by
    rcases hframe with hnone | herror | ⟨-, hdevice⟩ | ⟨connectionId, -, hframe⟩
    · rw [hnone] at heq; cases heq
    · rw [herror] at heq; cases heq
    · exact hdevice
    · rw [hframe] at heq; cases heq
  registeredProvisional connectionId heq := by
    rcases hframe with hnone | herror | ⟨hframe, -⟩ | ⟨connectionId', hpoint, hframe⟩
    · rw [hnone] at heq; cases heq
    · rw [herror] at heq; cases heq
    · rw [hframe] at heq; cases heq
    · rw [hframe] at heq
      cases heq
      exact (hissued connectionId hpoint).2
  command command heq := by
    rcases hframe with hnone | herror | ⟨hframe, -⟩ | ⟨connectionId, -, hframe⟩
    · rw [hnone] at heq; cases heq
    · rw [herror] at heq; cases heq
    · rw [hframe] at heq; cases heq
    · rw [hframe] at heq; cases heq

/-- A move that changes the books without a frame. -/
theorem Sound.effect_change {point : Point} (hs : s.Sound) (hw : s.handlers ws = some h)
    (hc : Change s t ws h') (hext : h.Extends h')
    (hpush : ∀ deviceId, h'.pushDeviceId = some deviceId → h'.deviceId = some deviceId)
    (hat : t.At ws { h' with point := point } point)
    (hpoint : (∀ connectionId, point ≠ .issued connectionId) ∧ point ≠ .acknowledged)
    (hready : ∀ deviceId entry, t.devices deviceId = some entry → entry.ws = ws →
      entry.registrationReady = true → s.devices deviceId = some entry ∨ h.point = .acknowledged)
    (hprovisional : ∀ entry, t.provisional ws = some entry → entry.registrationReady = true →
      (∃ entry', s.provisional ws = some entry' ∧ entry'.registrationReady = true ∧
        entry'.connectionId = entry.connectionId) ∨ h.point = .issued entry.connectionId) :
    Effect s ws h (t.park ws h' point) { h' with point := point } none where
  sound := hs.park hw hc hpush hat
  sending := hc.sending
  handler := by rw [← hc.handlers]; rfl
  grows := hext.trans (.refl h' point)
  provisional := hc.provisional
  devices := hc.devices
  ready := hready
  readyProvisional := hprovisional
  issued connectionId heq := absurd heq (hpoint.1 connectionId)
  acknowledged heq := absurd heq hpoint.2
  registered heq := by cases heq
  registeredProvisional _ heq := by cases heq
  command _ heq := by cases heq

/-! ### Single moves -/

/-- The `finally` block forgets the provisional entry of its socket. -/
theorem Change.forget (hc : Change s t ws h') : Change s (t.setProvisional ws none) ws h' where
  handlers := hc.handlers
  sending := hc.sending
  provisional ws' hne := by
    rw [setProvisional_provisional, if_neg hne]
    exact hc.provisional ws' hne
  entry entry heq := by
    rw [setProvisional_provisional, if_pos rfl] at heq
    cases heq
  devices := hc.devices
  owner := hc.owner
  sessions := hc.sessions
  session := hc.session
  kept := hc.kept

/-- The `finally` block: the socket loses its provisional entry, and its device if it owns it. -/
theorem Sound.effect_leave {s' : Server} (hs : s.Sound) (hw : s.handlers ws = some h)
    (hc : Change s t ws h') (hext : h.Extends h')
    (hpush : ∀ deviceId, h'.pushDeviceId = some deviceId → h'.deviceId = some deviceId)
    (hready : ∀ deviceId entry, t.devices deviceId = some entry → entry.ws = ws →
      entry.registrationReady = true → s.devices deviceId = some entry ∨ h.point = .acknowledged)
    (hleave : Leave t ws h' s') :
    ∃ point, Effect s ws h s' { h' with point := point } none ∧ Kept s ws h s' point := by
  have hnone : ∀ entry, (t.setProvisional ws none).provisional ws = some entry →
      entry.registrationReady = true →
        (∃ entry', s.provisional ws = some entry' ∧ entry'.registrationReady = true ∧
          entry'.connectionId = entry.connectionId) ∨ h.point = .issued entry.connectionId := by
    intro entry heq
    rw [setProvisional_provisional, if_pos rfl] at heq
    cases heq
  cases hleave with
  | @stranger lost _ =>
    have hover := Point.isOver_afterwards lost
    exact ⟨_, hs.effect_change hw hc.forget hext hpush
      (at_of_isOver hover) hover.quiet hready hnone,
      fun _ _ => .inl hover, fun _ => hover⟩
  | @owner lost deviceId _ _ =>
    have hover := Point.isOver_afterwards lost
    refine ⟨_, hs.effect_change hw (hc.forget.deleteDevice deviceId) hext hpush
      (at_of_isOver hover) hover.quiet (fun deviceId' entry heq => hready deviceId' entry ?_) hnone,
      fun _ _ => .inl hover, fun _ => hover⟩
    rw [setDevice_devices] at heq
    split_ifs at heq
    exact heq
  | waiting _ _ =>
    exact ⟨_, hs.effect_change hw hc.forget hext hpush trivial (by simp) hready hnone,
      fun _ _ => .inl trivial, fun _ => trivial⟩

/-- A move to a point without a frame. -/
theorem Sound.effect_rest {point : Point} (hs : s.Sound) (hw : s.handlers ws = some h)
    (hat : s.At ws { h with point := point } point)
    (hpoint : (∀ connectionId, point ≠ .issued connectionId) ∧ point ≠ .acknowledged) :
    Effect s ws h (s.park ws h point) { h with point := point } none :=
  hs.effect_park hw hat (fun connectionId heq => absurd heq (hpoint.1 connectionId))
    (fun heq => absurd heq hpoint.2) (.inl rfl)

/-- The device of a handler is the one that it registers. -/
theorem whose_of_deviceId {P : DeviceId → Prop} (hdevice : h.deviceId = some deviceId)
    (hwhose : ∃ deviceId, h.deviceId = some deviceId ∧ h.pushDeviceId = some deviceId ∧
      P deviceId) : h.pushDeviceId = some deviceId ∧ P deviceId := by
  obtain ⟨deviceId', hdevice', hpush, hknown⟩ := hwhose
  obtain rfl := Option.some.inj (hdevice.symm.trans hdevice')
  exact ⟨hpush, hknown⟩

/-- A handler that awaits something for a device can go on with the next message. -/
theorem at_receive_of_completed (h' : s.At ws h .completed) : s.At ws h .receive := by
  obtain ⟨deviceId, hdevice, hpush, hserved⟩ := h'
  refine ⟨fun hnone => absurd (hdevice.symm.trans hnone) (by simp), fun deviceId' hdevice' => ?_⟩
  obtain rfl := Option.some.inj (hdevice.symm.trans hdevice')
  exact ⟨hpush, hserved⟩

/-- A provisional registration: the new entry is not ready, and its connection id is the one of the
socket. -/
theorem Sound.effect_registerProvisional {connectionId : Str} (hs : s.Sound)
    (hw : s.handlers ws = some h) (hfrom : h.point = .receive) (hdevice : h.deviceId = none)
    (hnew : World.isHex connectionId = true) (identity : ProvisionalIdentity)
    (capabilities : List Str) :
    ∃ h', Effect s ws h (s.registerProvisional ws h identity capabilities connectionId) h' none ∧
      h'.deviceId = none ∧ ∃ entry,
        (s.registerProvisional ws h identity capabilities connectionId).provisional ws =
          some entry ∧
          entry.identity = identity ∧ entry.capabilities = capabilities := by
  have hat := hs.atPoint hw hfrom
  -- the connection id of a socket is the one it has already been given
  obtain ⟨hissued, hhex⟩ : (∀ issued, h.issued = some issued →
      ((s.provisional ws).map Provisional.connectionId).getD connectionId = issued) ∧
      World.isHex (((s.provisional ws).map Provisional.connectionId).getD connectionId) = true := by
    cases hprevious : s.provisional ws with
    | none =>
      refine ⟨fun issued heq => ?_, hnew⟩
      rcases hat.1 hdevice with ⟨hnone, -⟩ | ⟨entry, hentry, -⟩
      · exact absurd (hnone.symm.trans heq) (by simp)
      · exact absurd (hprevious.symm.trans hentry) (by simp)
    | some entry =>
      obtain ⟨h₀, hh₀, -, -, hentry, hhex⟩ := hs.entry ws entry hprevious
      obtain rfl := Option.some.inj (hw.symm.trans hh₀)
      exact ⟨fun issued heq => Option.some.inj (hentry.symm.trans heq), hhex⟩
  have hext : h.Extends { h with
      provisional := true
      issued := some (((s.provisional ws).map Provisional.connectionId).getD connectionId) } :=
    ⟨fun deviceId heq => absurd (hdevice.symm.trans heq) (by simp), fun issued heq => by
      rw [hissued issued heq]⟩
  refine ⟨_, hs.effect_change hw (hs.change hw hext _ fun entry heq => ?_) hext
    (fun deviceId hpush => ?_)
    ⟨hdevice, _, (setProvisional_provisional ..).trans (if_pos rfl), rfl⟩ (by simp)
    (fun _ _ heq _ _ => .inl heq) fun entry heq hready => .inl ?_, hdevice,
    _, (setProvisional_provisional ..).trans (if_pos rfl), rfl, rfl⟩
  · obtain rfl := Option.some.inj heq
    exact ⟨hdevice, rfl, rfl, hhex⟩
  · exact hs.push ws h deviceId hw hpush
  · rw [setProvisional_provisional, if_pos rfl] at heq
    obtain rfl := Option.some.inj heq
    obtain ⟨entry, hentry, hbefore⟩ := (Option.any_eq_true _ _).mp hready
    exact ⟨entry, hentry, hbefore, by rw [hentry]; rfl⟩

/-- The entry is ready once the `REGISTERED_PROVISIONAL` has been written. -/
theorem Sound.effect_issued {connectionId : Str} (hs : s.Sound) (hw : s.handlers ws = some h)
    (hfrom : h.point = .issued connectionId) :
    Effect s ws h ((s.setProvisional ws ((s.provisional ws).map fun entry =>
      if entry.connectionId = connectionId then { entry with registrationReady := true }
      else entry)).park ws h .answering) { h with point := .answering } none ∧
    Kept s ws h ((s.setProvisional ws ((s.provisional ws).map fun entry =>
      if entry.connectionId = connectionId then { entry with registrationReady := true }
      else entry)).park ws h .answering) .answering := by
  obtain ⟨hdevice, entry, hentry, hid⟩ := hs.atPoint hw hfrom
  obtain ⟨h₀, hh₀, hbooked⟩ := hs.entry ws entry hentry
  obtain rfl := Option.some.inj (hw.symm.trans hh₀)
  rw [hentry, Option.map_some, if_pos hid]
  refine ⟨hs.effect_change hw (hs.change hw (.refl h h.point) _ fun entry' heq => ?_)
    (.refl h h.point) (fun deviceId hpush => hs.push ws h deviceId hw hpush)
    ⟨fun _ => .inr ⟨_, (setProvisional_provisional ..).trans (if_pos rfl), rfl⟩,
      fun deviceId heq => absurd (hdevice.symm.trans heq) (by simp)⟩
    (by simp) (fun _ _ heq _ _ => .inl heq) fun entry' heq _ => .inr ?_,
    fun entry' heq => .inr ⟨_, (setProvisional_provisional ..).trans (if_pos rfl), ?_⟩,
    fun hover => ?_⟩
  · obtain rfl := Option.some.inj heq
    exact hbooked
  · rw [setProvisional_provisional, if_pos rfl] at heq
    obtain rfl := Option.some.inj heq
    rw [hfrom, hid]
  · obtain rfl := Option.some.inj (hentry.symm.trans heq)
    exact ⟨rfl, rfl⟩
  · rw [hfrom] at hover
    exact hover

/-- The books of a socket that is promoted. -/
theorem Sound.change_promote {kind : IdentityKind} (hs : s.Sound) (hw : s.handlers ws = some h)
    (hdevice : h.deviceId = none) (deviceId : DeviceId) (push : Option DeviceId) :
    Change s ((s.setProvisional ws none).setDevice deviceId (some ⟨ws, kind, false⟩)) ws
      { h with
        deviceId := some deviceId
        identityKind := some kind
        provisional := false
        pushDeviceId := push } := by
  refine Change.setDevice (hs.change hw ?_ none (by simp)) rfl rfl
  exact ⟨fun _ heq => absurd (hdevice.symm.trans heq) (by simp), fun _ heq => heq⟩

/-- The entry of a socket that is promoted is not ready. -/
theorem not_ready_promote {kind : IdentityKind} {deviceId' : DeviceId} {entry : Entry}
    (heq : ((s.setProvisional ws none).setDevice deviceId (some ⟨ws, kind, false⟩)).devices
      deviceId' = some entry) (hready : entry.registrationReady = true) :
    s.devices deviceId' = some entry := by
  rw [setDevice_devices] at heq
  split_ifs at heq
  · obtain rfl := Option.some.inj heq
    cases hready
  · exact heq

/-- A promotion: the socket owns the device, which is not ready. -/
theorem Sound.effect_promote (hs : s.Sound) (hw : s.handlers ws = some h)
    (hdevice : h.deviceId = none) (kind : IdentityKind) (deviceId : DeviceId)
    (saved verifying : Bool) :
    ∃ h', Effect s ws h (s.promote ws h kind deviceId saved verifying) h' none ∧
      h'.deviceId = some deviceId ∧ h'.identityKind = some kind := by
  have hext : ∀ push, h.Extends { h with
      deviceId := some deviceId
      identityKind := some kind
      provisional := false
      pushDeviceId := push } := fun _ =>
    ⟨fun _ heq => absurd (hdevice.symm.trans heq) (by simp), fun _ heq => heq⟩
  have hpush : h.pushDeviceId = none := by
    cases heq : h.pushDeviceId with
    | none => rfl
    | some pushed => exact absurd (hdevice.symm.trans (hs.push ws h pushed hw heq)) (by simp)
  rw [promote]
  cases saved with
  | true =>
    have howns : ((s.setProvisional ws none).setDevice deviceId (some ⟨ws, kind, false⟩)).owns
        deviceId ws = true :=
      owns_iff.mpr ⟨_, (setDevice_devices ..).trans (if_pos rfl), rfl⟩
    refine ⟨_, hs.effect_change hw ((hs.change_promote hw hdevice deviceId _).setCandidate howns)
      (hext (some deviceId)) (fun _ heq => heq) ⟨deviceId, rfl, rfl, fun _ => ?_⟩ (by simp)
      (fun _ _ heq _ hready => .inl (not_ready_promote heq hready)) fun entry heq => ?_, rfl,
      rfl⟩
    · rw [setCandidate_candidates, if_pos rfl]
    · rw [setCandidate, setDevice, setProvisional_provisional, if_pos rfl] at heq
      cases heq
  | false =>
    -- `save_registry` has raised, so the handler leaves with the entry that it has just made
    obtain ⟨point, heffect, -⟩ := hs.effect_leave hw
      (hs.change_promote hw hdevice deviceId h.pushDeviceId) (hext h.pushDeviceId)
      (fun _ heq => absurd (hpush.symm.trans heq) (by simp))
      (fun _ _ heq _ hready => .inl (not_ready_promote heq hready))
        (leave_leave _ _ _ verifying false)
    exact ⟨_, heffect, rfl, rfl⟩

/-- The newest registration takes the session of an older socket away. -/
theorem Sound.effect_replace (hs : s.Sound) (hw : s.handlers ws = some h)
    (hfrom : h.point = .registering) (hdevice : h.deviceId = some deviceId)
    (hnewest : s.isCandidate ws deviceId = true) :
    Effect s ws h ((s.replaceSession ws deviceId).park ws h .reconciling)
      { h with point := .reconciling } none := by
  rw [isCandidate, Bool.and_eq_true, decide_eq_true_iff] at hnewest
  obtain ⟨hcandidate, howns⟩ := hnewest
  obtain ⟨hpush, -⟩ := whose_of_deviceId hdevice (hs.atPoint hw hfrom)
  have hat : ∀ sessions, At { s with sessions := sessions } ws { h with point := .reconciling }
      .reconciling := fun _ => ⟨deviceId, hdevice, hpush, fun _ => hcandidate⟩
  have hunchanged := hs.unchanged hw h.point
  rw [replaceSession]
  split_ifs
  · exact hs.effect_rest hw (hat s.sessions) (by simp)
  · exact hs.effect_change hw (hunchanged.deleteSession (.inr howns)) (.refl h h.point)
      (fun deviceId heq => hs.push ws h deviceId hw heq) (hat _) (by simp)
      (fun _ _ heq _ _ => .inl heq) fun entry heq hready => .inl ⟨entry, heq, hready, rfl⟩

/-- And becomes the session. -/
theorem Sound.effect_session (hs : s.Sound) (hw : s.handlers ws = some h)
    (hfrom : h.point = .reconciling) (hdevice : h.deviceId = some deviceId)
    (hnewest : s.isCandidate ws deviceId = true) :
    Effect s ws h ((s.setSession deviceId (some ws)).park ws h .acknowledging)
      { h with point := .acknowledging } none := by
  rw [isCandidate, Bool.and_eq_true, decide_eq_true_iff] at hnewest
  obtain ⟨hcandidate, howns⟩ := hnewest
  obtain ⟨hpush, -⟩ := whose_of_deviceId hdevice (hs.atPoint hw hfrom)
  exact hs.effect_change hw ((hs.unchanged hw h.point).setSession hdevice howns)
    (.refl h h.point) (fun deviceId heq => hs.push ws h deviceId hw heq)
    ⟨deviceId, hdevice, hpush, fun _ => (setSession_sessions ..).trans (if_pos rfl)⟩ (by simp)
    (fun _ _ heq _ _ => .inl heq) fun entry heq hready => .inl ⟨entry, heq, hready, rfl⟩

/-- The device is ready once the `REGISTERED` has been written. -/
theorem Sound.effect_ready (hs : s.Sound) (hw : s.handlers ws = some h)
    (hfrom : h.point = .acknowledged) (hdevice : h.deviceId = some deviceId)
    (howns : s.owns deviceId ws = true) :
    Effect s ws h (((s.setReady deviceId true).dropCandidate ws deviceId).park ws h .completed)
        { h with point := .completed } none ∧
      (((s.setReady deviceId true).dropCandidate ws deviceId).park ws h .completed).provisional =
        s.provisional := by
  obtain ⟨hpush, hsession⟩ := whose_of_deviceId hdevice (hs.atPoint hw hfrom)
  obtain ⟨entry, hentry, hws⟩ := owns_iff.mp howns
  have hchange := ((hs.unchanged hw h.point).setReady true howns).dropCandidate deviceId
  have hdevices : ((s.setReady deviceId true).dropCandidate ws deviceId).devices deviceId =
      some { entry with registrationReady := true } := by
    have hset : (s.setReady deviceId true).devices deviceId =
        some { entry with registrationReady := true } := by
      rw [setReady, setDevice_devices, if_pos rfl, hentry, Option.map_some]
    rw [← hset, dropCandidate]
    split_ifs <;> rfl
  have hsessions : ((s.setReady deviceId true).dropCandidate ws deviceId).sessions deviceId =
      some ws := by
    rw [← hsession howns, dropCandidate]
    split_ifs <;> rfl
  have hprovisional : ((s.setReady deviceId true).dropCandidate ws deviceId).provisional =
      s.provisional := by
    rw [dropCandidate]
    split_ifs <;> rfl
  refine ⟨hs.effect_change hw hchange (.refl h h.point)
    (fun deviceId heq => hs.push ws h deviceId hw heq)
    ⟨deviceId, hdevice, hpush, fun _ => ⟨_, hdevices, hws, rfl, hsessions⟩⟩ (by simp)
    (fun _ _ _ _ _ => .inr hfrom) fun entry heq hready => .inl ⟨entry, ?_, hready, rfl⟩,
    hprovisional⟩
  rw [← hprovisional]
  exact heq

/-- `disconnect_device`: the socket is no session any more, and a device it still owns is not ready.
-/
theorem Sound.effect_disconnect {point : Point} (hs : s.Sound) (hw : s.handlers ws = some h)
    (deviceId : DeviceId) (hover : point.IsOver) :
    Effect s ws h ((s.disconnectDevice ws deviceId).park ws h point) { h with point := point }
      none := by
  have hunchanged := (hs.unchanged hw h.point).dropCandidate deviceId
  have hbooks : (s.dropCandidate ws deviceId).devices = s.devices ∧
      (s.dropCandidate ws deviceId).provisional = s.provisional := by
    rw [dropCandidate]
    split_ifs <;> exact ⟨rfl, rfl⟩
  have hpush : ∀ deviceId, h.pushDeviceId = some deviceId → h.deviceId = some deviceId :=
    fun deviceId heq => hs.push ws h deviceId hw heq
  rw [disconnectDevice]
  dsimp only
  split_ifs with hsession howns
  · refine hs.effect_change hw hunchanged (.refl h h.point) hpush (at_of_isOver hover) hover.quiet
      (fun _ _ heq _ _ => .inl (hbooks.1 ▸ heq)) fun entry heq hready =>
        .inl ⟨entry, ?_, hready, rfl⟩
    exact hbooks.2 ▸ heq
  · rw [not_not] at hsession
    refine hs.effect_change hw ((hunchanged.deleteSession (.inl hsession)).setReady false howns)
      (.refl h h.point) hpush (at_of_isOver hover) hover.quiet
      (fun deviceId' entry heq hws hready => .inl ?_)
      fun entry heq hready => .inl ⟨entry, ?_, hready, rfl⟩
    · rw [setReady, setDevice_devices] at heq
      split_ifs at heq
      · obtain ⟨entry', -, rfl⟩ := Option.map_eq_some_iff.mp heq
        cases hready
      · exact hbooks.1 ▸ heq
    · exact hbooks.2 ▸ heq
  · rw [not_not] at hsession
    refine hs.effect_change hw (hunchanged.deleteSession (.inl hsession)) (.refl h h.point) hpush
      (at_of_isOver hover) hover.quiet (fun _ _ heq _ _ => .inl (hbooks.1 ▸ heq))
      fun entry heq hready => .inl ⟨entry, ?_, hready, rfl⟩
    exact hbooks.2 ▸ heq

/-! ### Every move -/

/-- A move that leaves the provisional entry keeps it. -/
theorem Kept.of_provisional {s' : Server} {point : Point} (heq : s'.provisional = s.provisional)
    (hended : h.point.IsOver → point.IsOver) : Kept s ws h s' point :=
  ⟨fun entry hentry => .inr ⟨entry, heq ▸ hentry, rfl, rfl⟩, hended⟩

/-- A handler that awaits something is not over. -/
theorem Kept.of_awaiting {s' : Server} {before point : Point} (hfrom : h.point = before)
    (hnot : ¬before.IsOver) (heq : s'.provisional = s.provisional) : Kept s ws h s' point :=
  .of_provisional heq fun hover => absurd (hfrom ▸ hover) hnot

/-- Nothing is to be kept of a handler that is over. -/
theorem Kept.of_isOver {s' : Server} {point : Point} (h' : point.IsOver) : Kept s ws h s' point :=
  ⟨fun _ _ => .inl h', fun _ => h'⟩

/-- **What a move does.** -/
theorem Move.effect {s' : Server} {frame : Option Down} (hmove : Move s ws h s' frame)
    (hs : s.Sound) (hw : s.handlers ws = some h) :
    ∃ point, Effect s ws h s' { h with point := point } frame ∧ Kept s ws h s' point := by
  have hat := hs.point ws h hw
  cases hmove with
  | stay hfrom =>
    have hself : s.park ws h h.point = s := by
      rw [park, setHandler, ← hw, Function.update_eq_self]
    refine ⟨h.point, ?_, .of_provisional rfl id⟩
    have heffect : Effect s ws h (s.park ws h h.point) h none := hs.effect_rest hw hat (by
      rcases hfrom with hfrom | hfrom <;> rw [hfrom] <;> simp)
    rwa [hself] at heffect
  | rest hfrom hto =>
    have hreceive : s.At ws h .receive := by
      rcases hfrom with hfrom | hfrom | hfrom
      · exact hfrom ▸ hat
      · rw [hfrom] at hat
        exact hat
      · rw [hfrom] at hat
        exact at_receive_of_completed hat
    have hnot : ¬h.point.IsOver := by
      rcases hfrom with hfrom | hfrom | hfrom <;> rw [hfrom] <;> exact id
    rcases hto with rfl | rfl
    · exact ⟨_, hs.effect_rest hw hreceive (by simp), .of_provisional rfl fun h' => absurd h' hnot⟩
    · exact ⟨_, hs.effect_rest hw hreceive (by simp), .of_provisional rfl fun h' => absurd h' hnot⟩
  | stop _ hto =>
    rcases hto with rfl | rfl
    · exact ⟨_, hs.effect_rest hw trivial (by simp), .of_isOver trivial⟩
    · exact ⟨_, hs.effect_rest hw trivial (by simp), .of_isOver trivial⟩
  | refuse _ hframe =>
    exact ⟨_, hs.effect_park hw trivial (by simp) (by simp)
      (hframe.imp_right Or.inl), .of_isOver trivial⟩
  | again hfrom hdevice =>
    rw [hfrom] at hat
    exact ⟨_, hs.effect_rest hw ⟨_, hdevice, (hat.2 _ hdevice).1, (hat.2 _ hdevice).2⟩ (by simp),
      .of_awaiting hfrom id rfl⟩
  | reacknowledge hfrom hdevice =>
    rw [hfrom] at hat
    refine ⟨_, hs.effect_park hw (at_receive_of_completed hat) (by simp) (by simp)
      (.inr (.inr (.inl ⟨rfl, fun hnone => ?_⟩))), .of_awaiting hfrom id rfl⟩
    rw [hnone] at hdevice
    cases hdevice
  | @issue connectionId hfrom =>
    rw [hfrom] at hat
    obtain ⟨hdevice, entry, hentry, rfl⟩ := hat
    obtain ⟨h₀, hh₀, -, -, hissued, hhex⟩ := hs.entry ws entry hentry
    obtain rfl := Option.some.inj (hw.symm.trans hh₀)
    refine ⟨_, hs.effect_park hw ⟨hdevice, entry, hentry, rfl⟩ (fun connectionId heq => ?_)
      (by simp) (.inr (.inr (.inr ⟨_, rfl, rfl⟩))), .of_awaiting hfrom id rfl⟩
    cases heq
    exact ⟨rfl, hissued, hhex⟩
  | issued hfrom => exact ⟨_, hs.effect_issued hw hfrom⟩
  | replace hfrom hdevice hnewest =>
    refine ⟨_, hs.effect_replace hw hfrom hdevice hnewest, .of_awaiting hfrom id ?_⟩
    rw [replaceSession]
    split_ifs <;> rfl
  | session hfrom hdevice hnewest =>
    exact ⟨_, hs.effect_session hw hfrom hdevice hnewest, .of_awaiting hfrom id rfl⟩
  | @superseded deviceId hfrom hdevice hnewer =>
    -- a handler that is not the newest registration has lost its device
    obtain ⟨hpush, hcandidate⟩ : h.pushDeviceId = some deviceId ∧
        (s.owns deviceId ws = true → s.candidates deviceId = some ws) := by
      rcases hfrom with hfrom | hfrom
      · exact whose_of_deviceId hdevice (hs.atPoint hw hfrom)
      · exact whose_of_deviceId hdevice (hs.atPoint hw hfrom)
    have hstranger : ∀ howns : s.owns deviceId ws = true, s.Served ws deviceId := fun howns => by
      rw [isCandidate, hcandidate howns, howns] at hnewer
      simp at hnewer
    refine ⟨_, hs.effect_rest hw ⟨_, hdevice, hpush, hstranger⟩ (by simp), ?_⟩
    rcases hfrom with hfrom | hfrom
    · exact .of_awaiting hfrom id rfl
    · exact .of_awaiting hfrom id rfl
  | acknowledge hfrom hdevice =>
    rw [hfrom] at hat
    exact ⟨_, hs.effect_park hw hat (by simp) (by simp)
      (.inr (.inr (.inl ⟨rfl, by rw [hdevice]; simp⟩))), .of_awaiting hfrom id rfl⟩
  | ready hfrom hdevice howns =>
    obtain ⟨heffect, hprovisional⟩ := hs.effect_ready hw hfrom hdevice howns
    exact ⟨_, heffect, .of_awaiting hfrom id hprovisional⟩
  | @disowned deviceId hfrom hdevice howns =>
    obtain ⟨hpush, -⟩ := whose_of_deviceId hdevice (hs.atPoint hw hfrom)
    exact ⟨_, hs.effect_rest hw ⟨_, hdevice, hpush, fun hown => absurd (hown.symm.trans howns)
      (by simp)⟩ (by simp), .of_awaiting hfrom id rfl⟩
  | @disconnect deviceId _ _ =>
    exact ⟨_, hs.effect_disconnect hw deviceId trivial, .of_isOver trivial⟩
  | hurry _ => exact ⟨_, hs.effect_rest hw trivial (by simp), .of_isOver trivial⟩
  | leave hleave =>
    have hunchanged := hs.unchanged hw h.point
    exact hs.effect_leave hw hunchanged (.refl h h.point)
      (fun deviceId heq => hs.push ws h deviceId hw heq) (fun _ _ heq _ _ => .inl heq) hleave
  | @fail deviceId s' hdevice hleave =>
    have hunchanged := hs.unchanged hw h.point
    have hend : Change s (s.endSession ws deviceId) ws h ∧
        (s.endSession ws deviceId).devices = s.devices := by
      rw [endSession]
      split_ifs with hsession
      · exact ⟨hunchanged.deleteSession (.inl hsession), rfl⟩
      · exact ⟨hunchanged, rfl⟩
    exact hs.effect_leave hw hend.1 (.refl h h.point)
      (fun deviceId heq => hs.push ws h deviceId hw heq)
      (fun _ _ heq _ _ => .inl (hend.2 ▸ heq)) hleave
  | @delete lost deviceId _ _ =>
    have hover := Point.isOver_afterwards lost
    refine ⟨_, hs.effect_change hw ((hs.unchanged hw h.point).deleteDevice deviceId)
      (.refl h h.point) (fun deviceId heq => hs.push ws h deviceId hw heq) (at_of_isOver hover)
      hover.quiet (fun _ _ heq _ _ => .inl ?_)
      (fun entry heq hready => .inl ⟨entry, heq, hready, rfl⟩), .of_isOver hover⟩
    rw [setDevice_devices] at heq
    split_ifs at heq
    exact heq
  | @depart deviceId _ _ =>
    exact ⟨_, hs.effect_disconnect hw deviceId trivial, .of_isOver trivial⟩
  | finish _ hto => exact ⟨_, hs.effect_rest hw (at_of_isOver hto) hto.quiet, .of_isOver hto⟩

end Server

end StylyMdm.Handshake
