import StylyMdm.Handshake.Moves

/-!
# The books of the server

What `devices`, `provisional_connections`, `sessions` and `registration_candidates` say about a
socket agrees with its handler, wherever the handler is suspended (`Sound`). A move changes the
books of its own socket, and those of other sockets only by taking their device away from them
(`Change`).

`At` says for each point what the books have of the handler that is suspended there: an entry that
is not ready yet while the client is being told, a ready one while it waits for messages, none when
it is over. A device has one entry, so a socket that registers takes it from the one before; the
older handler is then at a point whose books it no longer has, which is why every statement of `At`
about a device is conditional on still owning it (`Served`).

`Sound.change` is the rule that the next module uses: a change by one socket keeps the books sound
for all others, whatever it is.
-/

namespace StylyMdm.Handshake

open Text Py Registry

/-- The later handler has at least the identities of the earlier one. -/
structure Handler.Extends (h h' : Handler) : Prop where
  deviceId : ∀ deviceId, h.deviceId = some deviceId →
    h'.deviceId = some deviceId ∧ h'.identityKind = h.identityKind
  issued : ∀ connectionId, h.issued = some connectionId → h'.issued = some connectionId

namespace Handler.Extends

variable {h h' h'' : Handler}

/-- A handler that goes on has the identities it had. -/
theorem refl (h : Handler) (point : Point) : h.Extends { h with point := point } :=
  ⟨fun _ hdevice => ⟨hdevice, rfl⟩, fun _ hissued => hissued⟩

/-- And later still. -/
theorem trans (hext : h.Extends h') (hext' : h'.Extends h'') : h.Extends h'' where
  deviceId deviceId hdevice := by
    obtain ⟨hdevice', hkind⟩ := hext.deviceId deviceId hdevice
    obtain ⟨hdevice'', hkind'⟩ := hext'.deviceId deviceId hdevice'
    exact ⟨hdevice'', hkind'.trans hkind⟩
  issued connectionId hissued := hext'.issued _ (hext.issued _ hissued)

end Handler.Extends

namespace Server

variable {s t : Server} {ws ws' : Socket} {h h' : Handler} {deviceId : DeviceId}

/-- A socket owns the device when the entry names it. -/
theorem owns_iff : s.owns deviceId ws = true ↔
    ∃ entry, s.devices deviceId = some entry ∧ entry.ws = ws := by
  cases hentry : s.devices deviceId with
  | none => simp [owns, hentry]
  | some entry => simp [owns, hentry]

/-- The socket has the device, ready for commands. -/
def Served (s : Server) (ws : Socket) (deviceId : DeviceId) : Prop :=
  ∃ entry, s.devices deviceId = some entry ∧ entry.ws = ws ∧ entry.registrationReady = true ∧
    s.sessions deviceId = some ws

/-- What holds where a handler is suspended. -/
def At (s : Server) (ws : Socket) (h : Handler) : Point → Prop
  | .receive | .answering =>
    (h.deviceId = none → (h.issued = none ∧ s.provisional ws = none) ∨
      ∃ entry, s.provisional ws = some entry ∧ entry.registrationReady = true) ∧
    ∀ deviceId, h.deviceId = some deviceId → h.pushDeviceId = some deviceId ∧
      (s.owns deviceId ws = true → s.Served ws deviceId)
  | .issuing connectionId | .issued connectionId =>
    h.deviceId = none ∧ ∃ entry, s.provisional ws = some entry ∧ entry.connectionId = connectionId
  | .registering | .reconciling =>
    ∃ deviceId, h.deviceId = some deviceId ∧ h.pushDeviceId = some deviceId ∧
      (s.owns deviceId ws = true → s.candidates deviceId = some ws)
  | .acknowledging | .acknowledged =>
    ∃ deviceId, h.deviceId = some deviceId ∧ h.pushDeviceId = some deviceId ∧
      (s.owns deviceId ws = true → s.sessions deviceId = some ws)
  | .completed | .reacknowledging =>
    ∃ deviceId, h.deviceId = some deviceId ∧ h.pushDeviceId = some deviceId ∧
      (s.owns deviceId ws = true → s.Served ws deviceId)
  | _ => True

/-- The books agree with the handlers. -/
structure Sound (s : Server) : Prop where
  owner : ∀ deviceId entry, s.devices deviceId = some entry → ∃ h, s.handlers entry.ws = some h ∧
    h.deviceId = some deviceId ∧ h.identityKind = some entry.identityKind
  session : ∀ deviceId ws, s.sessions deviceId = some ws →
    ∃ h, s.handlers ws = some h ∧ h.deviceId = some deviceId
  entry : ∀ ws entry, s.provisional ws = some entry → ∃ h, s.handlers ws = some h ∧
    h.deviceId = none ∧ h.provisional = true ∧ h.issued = some entry.connectionId ∧
    World.isHex entry.connectionId = true
  push : ∀ ws h deviceId, s.handlers ws = some h → h.pushDeviceId = some deviceId →
    h.deviceId = some deviceId
  point : ∀ ws h, s.handlers ws = some h → s.At ws h h.point

/-- What holds where the handler is known to be. -/
theorem Sound.atPoint (hs : s.Sound) (hw : s.handlers ws = some h) {point : Point}
    (hfrom : h.point = point) : s.At ws h point :=
  hfrom ▸ hs.point ws h hw

/-- A move changes the books from `s` to `t`, for the handler of `ws` with the local variables
`h`. -/
structure Change (s t : Server) (ws : Socket) (h : Handler) : Prop where
  handlers : t.handlers = s.handlers
  sending : t.sending = s.sending
  provisional : ∀ ws' ≠ ws, t.provisional ws' = s.provisional ws'
  entry : ∀ entry, t.provisional ws = some entry → h.deviceId = none ∧ h.provisional = true ∧
    h.issued = some entry.connectionId ∧ World.isHex entry.connectionId = true
  devices : ∀ deviceId entry, t.devices deviceId = some entry → entry.ws ≠ ws →
    s.devices deviceId = some entry
  owner : ∀ deviceId entry, t.devices deviceId = some entry → entry.ws = ws →
    h.deviceId = some deviceId ∧ h.identityKind = some entry.identityKind
  sessions : ∀ deviceId, ∀ ws' ≠ ws, t.sessions deviceId = some ws' →
    s.sessions deviceId = some ws'
  session : ∀ deviceId, t.sessions deviceId = some ws → h.deviceId = some deviceId
  kept : ∀ deviceId, ∀ ws' ≠ ws, t.owns deviceId ws' = true →
    (s.sessions deviceId = some ws' → t.sessions deviceId = some ws') ∧
      (s.candidates deviceId = some ws' → t.candidates deviceId = some ws')

/-- Another socket that still has its device after the change had it before, with all that belongs
to it. -/
theorem Change.owns (hc : Change s t ws h') (hne : ws' ≠ ws) (howns : t.owns deviceId ws' = true) :
    s.owns deviceId ws' = true := by
  obtain ⟨entry, hentry, hws⟩ := owns_iff.mp howns
  exact owns_iff.mpr ⟨entry, hc.devices deviceId entry hentry (hws ▸ hne), hws⟩

/-- A device that another socket serves is still served. -/
theorem Change.served (hc : Change s t ws h') (hne : ws' ≠ ws) (howns : t.owns deviceId ws' = true)
    (hserved : s.Served ws' deviceId) : t.Served ws' deviceId := by
  obtain ⟨entry, hentry, hws⟩ := owns_iff.mp howns
  obtain ⟨entry', hentry', -, hready, hsession⟩ := hserved
  obtain rfl := Option.some.inj
    ((hc.devices deviceId entry hentry (hws ▸ hne)).symm.trans hentry')
  exact ⟨entry, hentry, hws, hready, (hc.kept deviceId ws' hne howns).1 hsession⟩

/-- What it relies on between two messages is kept. -/
theorem Change.at_receive (hc : Change s t ws h') (hne : ws' ≠ ws) {h : Handler}
    (hat : s.At ws' h .receive) : t.At ws' h .receive := by
  refine ⟨fun hnone => by rw [hc.provisional ws' hne]; exact hat.1 hnone,
    fun deviceId hdevice => ?_⟩
  obtain ⟨hpush, hserved⟩ := hat.2 deviceId hdevice
  exact ⟨hpush, fun howns => hc.served hne howns (hserved (hc.owns hne howns))⟩

/-- What it relies on while it registers a device is kept. -/
theorem Change.whose (hc : Change s t ws h') (hne : ws' ≠ ws) {h : Handler} {P Q : DeviceId → Prop}
    (hkept : ∀ deviceId, t.owns deviceId ws' = true → P deviceId → Q deviceId)
    (hwhose : ∃ deviceId, h.deviceId = some deviceId ∧ h.pushDeviceId = some deviceId ∧
      (s.owns deviceId ws' = true → P deviceId)) :
    ∃ deviceId, h.deviceId = some deviceId ∧ h.pushDeviceId = some deviceId ∧
      (t.owns deviceId ws' = true → Q deviceId) := by
  obtain ⟨deviceId, hdevice, hpush, hknown⟩ := hwhose
  exact ⟨deviceId, hdevice, hpush, fun howns =>
    hkept deviceId howns (hknown (hc.owns hne howns))⟩

/-- So it is where it was. -/
theorem Change.at (hc : Change s t ws h') (hne : ws' ≠ ws) {h : Handler} {point : Point}
    (hat : s.At ws' h point) : t.At ws' h point := by
  have hprovisional := hc.provisional ws' hne
  cases point with
  | receive => exact hc.at_receive hne hat
  | answering => exact hc.at_receive hne hat
  | issuing connectionId => exact ⟨hat.1, by rw [hprovisional]; exact hat.2⟩
  | issued connectionId => exact ⟨hat.1, by rw [hprovisional]; exact hat.2⟩
  | registering => exact hc.whose hne (fun deviceId howns => (hc.kept deviceId ws' hne howns).2) hat
  | reconciling => exact hc.whose hne (fun deviceId howns => (hc.kept deviceId ws' hne howns).2) hat
  | acknowledging =>
    exact hc.whose hne (fun deviceId howns => (hc.kept deviceId ws' hne howns).1) hat
  | acknowledged =>
    exact hc.whose hne (fun deviceId howns => (hc.kept deviceId ws' hne howns).1) hat
  | completed => exact hc.whose hne (fun _ howns => hc.served hne howns) hat
  | reacknowledging => exact hc.whose hne (fun _ howns => hc.served hne howns) hat
  | rejecting => trivial
  | disconnecting => trivial
  | leaving => trivial
  | closing lost => trivial
  | departing => trivial
  | closed => trivial

/-- Nothing is relied on where a handler is over. -/
theorem at_of_isOver {point : Point} (hover : point.IsOver) : s.At ws h point := by
  cases point with
  | rejecting | disconnecting | leaving | closing _ | departing | closed => trivial
  | _ => exact hover.elim

/-- Where a handler is does not depend on the handlers, or on what waits to be written. -/
theorem at_handlers {handlers : Socket → Option Handler} {sending : List Sending} {point : Point} :
    At { t with handlers := handlers, sending := sending } ws' h' point ↔ t.At ws' h' point := by
  cases point <;> exact Iff.rfl

/-- **A change keeps the books in order**, if the handler is then where it can be. -/
theorem Sound.park {point : Point} (hs : s.Sound) (hw : s.handlers ws = some h)
    (hc : Change s t ws h')
    (hpush : ∀ deviceId, h'.pushDeviceId = some deviceId → h'.deviceId = some deviceId)
    (hat : t.At ws { h' with point := point } point) : (t.park ws h' point).Sound := by
  have hself : (t.park ws h' point).handlers ws = some { h' with point := point } :=
    Function.update_self ..
  have hother : ∀ ws' ≠ ws, (t.park ws h' point).handlers ws' = s.handlers ws' := by
    intro ws' hne
    exact (Function.update_of_ne hne ..).trans (congrFun hc.handlers ws')
  -- in each book, what is about `ws` is as the change says, and the rest as before
  refine ⟨fun deviceId entry hentry => ?_, fun deviceId ws' hsession => ?_,
    fun ws' entry hentry => ?_, fun ws' h₀ deviceId hh₀ hdevice => ?_, fun ws' h₀ hh₀ => ?_⟩
  · by_cases hws : entry.ws = ws
    · obtain ⟨hdevice, hkind⟩ := hc.owner deviceId entry hentry hws
      exact ⟨_, (congrArg _ hws).trans hself, hdevice, hkind⟩
    · rw [hother _ hws]
      exact hs.owner deviceId entry (hc.devices deviceId entry hentry hws)
  · by_cases hws : ws' = ws
    · subst hws
      exact ⟨_, hself, hc.session deviceId hsession⟩
    · rw [hother _ hws]
      exact hs.session deviceId ws' (hc.sessions deviceId ws' hws hsession)
  · by_cases hws : ws' = ws
    · subst hws
      exact ⟨_, hself, hc.entry entry hentry⟩
    · rw [hother _ hws]
      exact hs.entry ws' entry ((hc.provisional ws' hws).symm.trans hentry)
  · by_cases hws : ws' = ws
    · subst hws
      obtain rfl := Option.some.inj (hself.symm.trans hh₀)
      exact hpush deviceId hdevice
    · exact hs.push ws' h₀ deviceId ((hother ws' hws).symm.trans hh₀) hdevice
  · by_cases hws : ws' = ws
    · subst hws
      obtain rfl := Option.some.inj (hself.symm.trans hh₀)
      exact at_handlers.mpr hat
    · exact at_handlers.mpr (hc.at hws (hs.point ws' h₀ ((hother ws' hws).symm.trans hh₀)))

/-! ### The changes -/

/-- A device has one owner. -/
theorem owns_unique (howns : s.owns deviceId ws = true) (howns' : s.owns deviceId ws' = true) :
    ws' = ws := by
  obtain ⟨entry, hentry, rfl⟩ := owns_iff.mp howns
  obtain ⟨entry', hentry', rfl⟩ := owns_iff.mp howns'
  rw [Option.some.inj (hentry.symm.trans hentry')]

/-- The handler changes what it likes of its own provisional entry. -/
theorem Sound.change (hs : s.Sound) (hw : s.handlers ws = some h) (hext : h.Extends h')
    (provisional : Option Provisional)
    (hentry : ∀ entry, provisional = some entry → h'.deviceId = none ∧ h'.provisional = true ∧
      h'.issued = some entry.connectionId ∧ World.isHex entry.connectionId = true) :
    Change s (s.setProvisional ws provisional) ws h' where
  handlers := rfl
  sending := rfl
  provisional ws' hne := Function.update_of_ne hne ..
  entry entry heq := by
    rw [setProvisional_provisional, if_pos rfl] at heq
    exact hentry entry heq
  devices _ _ heq _ := heq
  owner deviceId entry heq hws := by
    obtain ⟨h₀, hh₀, hdevice, hkind⟩ := hs.owner deviceId entry heq
    obtain rfl := Option.some.inj (hw.symm.trans (hws ▸ hh₀))
    obtain ⟨hdevice', hkind'⟩ := hext.deviceId deviceId hdevice
    exact ⟨hdevice', hkind'.trans hkind⟩
  sessions _ _ _ heq := heq
  session deviceId heq := by
    obtain ⟨h₀, hh₀, hdevice⟩ := hs.session deviceId ws heq
    obtain rfl := Option.some.inj (hw.symm.trans hh₀)
    exact (hext.deviceId deviceId hdevice).1
  kept _ _ _ _ := ⟨id, id⟩

/-- Or nothing at all. -/
theorem Sound.unchanged (hs : s.Sound) (hw : s.handlers ws = some h) (point : Point) :
    Change s s ws { h with point := point } := by
  have hc := hs.change hw (.refl h point) (s.provisional ws) fun entry heq => by
    obtain ⟨h₀, hh₀, hentry⟩ := hs.entry ws entry heq
    obtain rfl := Option.some.inj (hw.symm.trans hh₀)
    exact hentry
  rwa [setProvisional, Function.update_eq_self] at hc

namespace Change

variable (hc : Change s t ws h')
include hc

/-- The entry of a device is deleted. -/
theorem deleteDevice (deviceId : DeviceId) : Change s (t.setDevice deviceId none) ws h' where
  handlers := hc.handlers
  sending := hc.sending
  provisional := hc.provisional
  entry := hc.entry
  devices deviceId' entry heq hne := by
    rw [setDevice_devices] at heq
    split_ifs at heq
    exact hc.devices deviceId' entry heq hne
  owner deviceId' entry heq hws := by
    rw [setDevice_devices] at heq
    split_ifs at heq
    exact hc.owner deviceId' entry heq hws
  sessions := hc.sessions
  session := hc.session
  kept deviceId' ws' hne howns := by
    refine hc.kept deviceId' ws' hne ?_
    obtain ⟨entry, heq, hws⟩ := owns_iff.mp howns
    rw [setDevice_devices] at heq
    split_ifs at heq
    exact owns_iff.mpr ⟨entry, heq, hws⟩

/-- The handler makes its socket the owner of its device. -/
theorem setDevice {kind : IdentityKind} {ready : Bool} (hdevice : h'.deviceId = some deviceId)
    (hkind : h'.identityKind = some kind) :
    Change s (t.setDevice deviceId (some ⟨ws, kind, ready⟩)) ws h' where
  handlers := hc.handlers
  sending := hc.sending
  provisional := hc.provisional
  entry := hc.entry
  devices deviceId' entry heq hne := by
    rw [setDevice_devices] at heq
    split_ifs at heq
    · exact absurd (congrArg Entry.ws (Option.some.inj heq)).symm hne
    · exact hc.devices deviceId' entry heq hne
  owner deviceId' entry heq hws := by
    rw [setDevice_devices] at heq
    split_ifs at heq with hsame
    · obtain rfl := Option.some.inj heq
      exact ⟨hsame ▸ hdevice, hkind⟩
    · exact hc.owner deviceId' entry heq hws
  sessions := hc.sessions
  session := hc.session
  kept deviceId' ws' hne howns := by
    refine hc.kept deviceId' ws' hne ?_
    obtain ⟨entry, heq, hws⟩ := owns_iff.mp howns
    rw [setDevice_devices] at heq
    split_ifs at heq
    · exact absurd ((congrArg Entry.ws (Option.some.inj heq)).trans hws).symm hne
    · exact owns_iff.mpr ⟨entry, heq, hws⟩

/-- The owner becomes the session. -/
theorem setSession (hdevice : h'.deviceId = some deviceId) (howns : t.owns deviceId ws = true) :
    Change s (t.setSession deviceId (some ws)) ws h' where
  handlers := hc.handlers
  sending := hc.sending
  provisional := hc.provisional
  entry := hc.entry
  devices := hc.devices
  owner := hc.owner
  sessions deviceId' ws' hne heq := by
    rw [setSession_sessions] at heq
    split_ifs at heq
    · exact absurd (Option.some.inj heq).symm hne
    · exact hc.sessions deviceId' ws' hne heq
  session deviceId' heq := by
    rw [setSession_sessions] at heq
    split_ifs at heq with hsame
    · exact hsame ▸ hdevice
    · exact hc.session deviceId' heq
  kept deviceId' ws' hne howns' := by
    obtain ⟨hsession, hcandidate⟩ := hc.kept deviceId' ws' hne howns'
    refine ⟨fun heq => ?_, hcandidate⟩
    rw [setSession_sessions]
    split_ifs with hsame
    · exact absurd (owns_unique howns (hsame ▸ howns')) hne
    · exact hsession heq

/-- A session is given up that is of this socket, or of one that has lost the device. -/
theorem deleteSession
    (hwhose : t.sessions deviceId = some ws ∨ t.owns deviceId ws = true) :
    Change s (t.setSession deviceId none) ws h' where
  handlers := hc.handlers
  sending := hc.sending
  provisional := hc.provisional
  entry := hc.entry
  devices := hc.devices
  owner := hc.owner
  sessions deviceId' ws' hne heq := by
    rw [setSession_sessions] at heq
    split_ifs at heq
    exact hc.sessions deviceId' ws' hne heq
  session deviceId' heq := by
    rw [setSession_sessions] at heq
    split_ifs at heq
    exact hc.session deviceId' heq
  kept deviceId' ws' hne howns' := by
    obtain ⟨hsession, hcandidate⟩ := hc.kept deviceId' ws' hne howns'
    refine ⟨fun heq => ?_, hcandidate⟩
    rw [setSession_sessions]
    split_ifs with hsame
    · obtain rfl := hsame
      rcases hwhose with hown | howns
      · exact absurd (Option.some.inj ((hsession heq).symm.trans hown)) hne
      · exact absurd (owns_unique howns howns') hne
    · exact hsession heq

/-- The owner becomes the candidate. -/
theorem setCandidate (howns : t.owns deviceId ws = true) :
    Change s (t.setCandidate deviceId (some ws)) ws h' where
  handlers := hc.handlers
  sending := hc.sending
  provisional := hc.provisional
  entry := hc.entry
  devices := hc.devices
  owner := hc.owner
  sessions := hc.sessions
  session := hc.session
  kept deviceId' ws' hne howns' := by
    obtain ⟨hsession, hcandidate⟩ := hc.kept deviceId' ws' hne howns'
    refine ⟨hsession, fun heq => ?_⟩
    rw [setCandidate_candidates]
    split_ifs with hsame
    · exact absurd (owns_unique howns (hsame ▸ howns')) hne
    · exact hcandidate heq

/-- The candidate is dropped, if it is this socket. -/
theorem dropCandidate (deviceId : DeviceId) : Change s (t.dropCandidate ws deviceId) ws h' := by
  rw [Server.dropCandidate]
  split_ifs with hmine
  · refine ⟨hc.handlers, hc.sending, hc.provisional, hc.entry, hc.devices, hc.owner, hc.sessions,
      hc.session, fun deviceId' ws' hne howns' => ?_⟩
    obtain ⟨hsession, hcandidate⟩ := hc.kept deviceId' ws' hne howns'
    refine ⟨hsession, fun heq => ?_⟩
    rw [setCandidate_candidates]
    split_ifs with hsame
    · exact absurd (Option.some.inj ((hcandidate heq).symm.trans (hsame ▸ hmine))) hne
    · exact hcandidate heq
  · exact hc

/-- The owner changes `registration_ready`. -/
theorem setReady (ready : Bool) (howns : t.owns deviceId ws = true) :
    Change s (t.setReady deviceId ready) ws h' := by
  obtain ⟨entry, hentry, hws⟩ := owns_iff.mp howns
  obtain ⟨hdevice, hkind⟩ := hc.owner deviceId entry hentry hws
  have hset : Change s (t.setDevice deviceId (some ⟨ws, entry.identityKind, ready⟩)) ws h' :=
    hc.setDevice hdevice hkind
  rw [← hws] at hset ⊢
  rwa [Server.setReady, hentry]

end Change

end Server

end StylyMdm.Handshake
