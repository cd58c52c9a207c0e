import StylyMdm.Library.Run
import StylyMdm.Connections.Handler

/-!
# What a step does

`Happens` lists what a step of the server can be, with the conditions under which it is that;
`step_happens` says that the list is complete. `Turn.Orderly` is what all turns have in common: a
handler changes its device only if it owns it or is between a test of its ownership and what it does
because of it, and a registration is deleted only by a handler that is about to end.

A handler that is **between** (`Handler.between`) has tested that it owns the device, or claimed it,
and has awaited something since. These are the places of the source where another socket can slip
in; the conditions of the later modules are about them.

Three things happen to a device with its handler: a claim, which replaces the registration
(`Turn.Claims`), a turn of the handler that has it (`TurnOf`), and a timer. Each of the later
invariants has one lemma for each of these, and `step_happens` puts them together, so no proof
about runs unfolds the step function.
-/

namespace StylyMdm.Connections

open Text Py
open Registry (IdentityKind RegisterData)

/-- Is the handler in an await between a test of its ownership and what it does because of it? -/
def Handler.between (h : Handler) : Bool :=
  match h.point with
  | .retireResolved _ => true
  | .resultSent _ _ => true
  | .installStateSent _ _ => true
  | .verifySending _ => true
  | .hashing _ => true
  | .closing => true
  | _ => false

/-! ### What a turn does -/

section Turns

variable {ws : Socket} {dev : Device} {h : Handler} {now : Nat} {deviceId : DeviceId}

/-- A socket owns the device when it has its connection. -/
theorem Device.ownedBy_iff :
    dev.ownedBy ws = true ↔ ∃ c, dev.connection = some c ∧ c.ws = ws := by
  rw [Device.ownedBy]
  rcases dev.connection with _ | c
  · simp
  · simp

/-- A handler that goes on keeps its device. -/
@[simp] theorem Handler.at_deviceId (point : Point) : (h.at point).deviceId = h.deviceId := rfl

/-- And the time of its claim. -/
@[simp] theorem Handler.at_claim (point : Point) : (h.at point).claim = h.claim := rfl

/-- And is where it has gone. -/
@[simp] theorem Handler.at_point (point : Point) : (h.at point).point = point := rfl

/-- What a turn does to the ownership of the device. -/
structure Turn.Orderly (ws : Socket) (dev : Device) (h : Handler) (turn : Turn) : Prop where
  deviceId : turn.handler.deviceId = h.deviceId
  claim : turn.handler.claim = h.claim
  /-- The handler gets between test and act only where it tests. -/
  between : turn.handler.between = true → dev.ownedBy ws = true ∨ h.between = true
  /-- The connection is never replaced by another one. -/
  connection : ∀ c, turn.device.connection = some c → ∃ c', dev.connection = some c' ∧ c'.ws = c.ws
  /-- A deleted registration is the handler's last act. -/
  deleted : turn.device.connection = none → dev.connection = none ∨ turn.handler.point = .closed
  /-- A superseded handler that is not between test and act changes nothing. -/
  superseded : dev.ownedBy ws = false → h.between = false → turn.device = dev
  /-- Without the ownership only the end of the `finally` block deletes a registration. -/
  kept : dev.ownedBy ws = false → h.point ≠ .closing → turn.device.connection = dev.connection

/-- A turn that leaves the device alone and does not get between test and act. -/
theorem Turn.Orderly.of_device {turn : Turn} (hdevice : turn.device = dev)
    (hid : turn.handler.deviceId = h.deviceId) (hclaim : turn.handler.claim = h.claim)
    (hbetween : turn.handler.between = true → dev.ownedBy ws = true ∨ h.between = true) :
    turn.Orderly ws dev h where
  deviceId := hid
  claim := hclaim
  between := hbetween
  connection c hc := ⟨c, hdevice ▸ hc, rfl⟩
  deleted hnone := .inl (hdevice ▸ hnone)
  superseded _ _ := hdevice
  kept _ _ := by rw [hdevice]

/-- A turn that may act, and keeps the connection. -/
theorem Turn.Orderly.of_connection {turn : Turn}
    (hconnection : turn.device.connection = dev.connection)
    (hid : turn.handler.deviceId = h.deviceId) (hclaim : turn.handler.claim = h.claim)
    (hmay : dev.ownedBy ws = true ∨ h.between = true) : turn.Orderly ws dev h where
  deviceId := hid
  claim := hclaim
  between _ := hmay
  connection c hc := ⟨c, hconnection ▸ hc, rfl⟩
  deleted hnone := .inl (hconnection ▸ hnone)
  superseded hown hbetween := by simp [hown, hbetween] at hmay
  kept _ _ := hconnection

/-- The `finally` block, up to its await. -/
theorem orderly_leave : (leave ws dev h).Orderly ws dev h := by
  rw [leave]
  by_cases hown : dev.ownedBy ws = true
  · simp only [hown, Bool.not_true, Bool.false_eq_true, if_false]
    have hteardown : (teardown { dev with transfers := fun _ => false, lastInstallDispatch := none }
        { h with provisional := false }).Orderly ws dev h :=
      { deviceId := rfl
        claim := rfl
        between := fun _ => .inl hown
        connection := fun c hc => absurd hc (by simp [teardown])
        deleted := fun _ => .inr rfl
        superseded := fun hnot => by rw [hown] at hnot; exact absurd hnot (by simp)
        kept := fun hnot => by rw [hown] at hnot; exact absurd hnot (by simp) }
    split
    · exact hteardown
    · split
      · exact hteardown
      · exact .of_connection rfl rfl rfl (.inl hown)
  · simp only [hown, Bool.not_false, if_true]
    exact .of_device rfl rfl rfl fun hbetween => absurd hbetween (by simp [Handler.between])

/-- A self-update is deleted by the owner, or between two messages. -/
theorem orderly_deleteSelfUpdate {events : List Event}
    (hmay : dev.ownedBy ws = true ∨ h.between = true) :
    (deleteSelfUpdate ws dev h events).Orderly ws dev h := by
  rw [deleteSelfUpdate]
  split
  · have hleave : (leave ws dev h).Orderly ws dev h := orderly_leave
    exact { hleave with }
  · exact .of_connection rfl rfl rfl hmay

/-- A registration resolves the pending self-update. -/
theorem orderly_resolvePendingSelfUpdate {versionCode : Option Int}
    (hmay : dev.ownedBy ws = true ∨ h.between = true) :
    (resolvePendingSelfUpdate dev h versionCode).Orderly ws dev h := by
  rw [resolvePendingSelfUpdate]
  split
  · exact .of_connection rfl rfl rfl hmay
  · split_ifs
    · exact .of_connection rfl rfl rfl hmay
    · exact .of_connection rfl rfl rfl hmay

/-- A self-update is settled. -/
theorem orderly_settleSelfUpdate {entry : SelfUpdate} {success : Bool}
    (hmay : dev.ownedBy ws = true ∨ h.between = true) :
    (settleSelfUpdate ws dev h entry success).Orderly ws dev h := by
  rw [settleSelfUpdate]
  split_ifs
  · exact orderly_deleteSelfUpdate hmay
  · exact .of_connection rfl rfl rfl hmay
  · exact orderly_deleteSelfUpdate hmay

/-- A registration resolves the pending retirement. -/
theorem orderly_resolvePendingRetire {versionCode : Option Int}
    (hmay : dev.ownedBy ws = true ∨ h.between = true) :
    (resolvePendingRetire dev h deviceId versionCode).Orderly ws dev h := by
  rw [resolvePendingRetire]
  split
  · exact orderly_resolvePendingSelfUpdate hmay
  · exact .of_connection rfl rfl rfl hmay

/-- An acknowledgement changes no owner. -/
theorem ownedBy_acknowledge (ready : Bool) :
    (dev.acknowledge ready).ownedBy ws = dev.ownedBy ws := by
  rw [Device.ownedBy, Device.ownedBy, Device.acknowledge]
  rcases dev.connection with _ | c <;> rfl

/-- A turn after an acknowledgement is one of the handler. -/
theorem Turn.Orderly.of_acknowledge {turn : Turn} {ready : Bool}
    (hturn : turn.Orderly ws (dev.acknowledge ready) h) (hown : dev.ownedBy ws = true) :
    turn.Orderly ws dev h where
  deviceId := hturn.deviceId
  claim := hturn.claim
  between _ := .inl hown
  connection c hc := by
    obtain ⟨c', hc', hws⟩ := hturn.connection c hc
    obtain ⟨c'', hc'', rfl⟩ := Option.map_eq_some_iff.mp hc'
    exact ⟨c'', hc'', hws⟩
  deleted hnone := by
    rcases hturn.deleted hnone with hnone | hclosed
    · exact .inl (Option.map_eq_none_iff.mp hnone)
    · exact .inr hclosed
  superseded hnot := by
    rw [hown] at hnot
    exact absurd hnot (by simp)
  kept hnot := by
    rw [hown] at hnot
    exact absurd hnot (by simp)

/-- A message of the owner. -/
theorem orderly_handleOwn (message : Message) (hown : dev.ownedBy ws = true) :
    (handleOwn ws dev h now deviceId message).Orderly ws dev h := by
  unfold handleOwn
  split
  · rename_i task
    generalize (if task.truthy then task else Value.str taskInstall) = key
    split
    · exact .of_connection rfl rfl rfl (.inl hown)
    · split_ifs
      · exact .of_connection rfl rfl rfl (.inl hown)
      · exact orderly_leave
  · split_ifs
    · exact .of_connection rfl rfl rfl (.inl hown)
    · split
      · exact .of_connection rfl rfl rfl (.inl hown)
      · exact .of_connection rfl rfl rfl (.inl hown)
  · split_ifs
    · exact .of_connection rfl rfl rfl (.inl hown)
    · exact .of_connection rfl rfl rfl (.inl hown)
  · exact .of_connection rfl rfl rfl (.inl hown)
  · simp only
    split
    · exact .of_connection rfl rfl rfl (.inl hown)
    · split_ifs
      · exact .of_connection rfl rfl rfl (.inl hown)
      · exact .of_connection rfl rfl rfl (.inl hown)
  · exact .of_connection rfl rfl rfl (.inl hown)
  · split
    · exact .of_connection rfl rfl rfl (.inl hown)
    · split_ifs
      · exact .of_connection rfl rfl rfl (.inl hown)
      · exact .of_connection rfl rfl rfl (.inl hown)
  · exact .of_connection rfl rfl rfl (.inl hown)
  · exact .of_connection rfl rfl rfl (.inl hown)

/-- A handler goes on past any await. -/
theorem orderly_resume (answer : Answer) :
    (resume ws dev h now deviceId h.point answer).Orderly ws dev h := by
  have hstay : ∀ point, (h.at point).between = false →
      Turn.Orderly ws dev h { device := dev, handler := h.at point } := by
    intro point hpoint
    exact .of_device rfl rfl rfl fun hbetween => absurd hbetween (by simp [hpoint])
  have hsame : Turn.Orderly ws dev h { device := dev, handler := h } :=
    .of_device rfl rfl rfl .inr
  have hbetween : ∀ point, h.point = point → (h.at point).between = h.between := by
    rintro point rfl
    rfl
  unfold resume
  split
  · exact hstay _ rfl
  · split_ifs with hown
    · exact (orderly_resolvePendingRetire (.inl (by rwa [ownedBy_acknowledge]))).of_acknowledge hown
    · exact hstay _ rfl
  · rename_i heq
    exact orderly_resolvePendingSelfUpdate (.inr (hbetween _ heq).symm)
  · rename_i heq
    exact .of_connection rfl rfl rfl (.inr (hbetween _ heq).symm)
  · rename_i heq
    exact orderly_settleSelfUpdate (.inr (hbetween _ heq).symm)
  · rename_i heq
    exact .of_connection rfl rfl rfl (.inr (hbetween _ heq).symm)
  · rename_i heq
    exact orderly_deleteSelfUpdate (.inr (hbetween _ heq).symm)
  · rename_i heq
    exact .of_connection rfl rfl rfl (.inr (hbetween _ heq).symm)
  · rename_i heq
    split_ifs
    · exact
        { deviceId := rfl
          claim := rfl
          between := fun _ => .inr (hbetween _ heq).symm
          connection := fun c hc => absurd hc (by simp [teardown])
          deleted := fun _ => .inr rfl
          superseded := fun _ hnot => by
            rw [← hbetween _ heq] at hnot
            exact absurd hnot (by simp [Handler.between])
          kept := fun _ hnot => absurd heq hnot }
    · exact hstay _ rfl
  · exact hstay _ rfl
  · exact hsame
  · exact hsame
  · exact orderly_leave

end Turns


/-! ### Steps -/

section Apply

variable (s : State) (ws : Socket) (deviceId : DeviceId) (turn : Turn)

/-- A turn changes the device of its handler. -/
@[simp] theorem State.apply_devices_self :
    (s.apply ws deviceId turn).devices deviceId = turn.device := Function.update_self ..

/-- And no other. -/
theorem State.apply_devices_of_ne {deviceId' : DeviceId} (h : deviceId' ≠ deviceId) :
    (s.apply ws deviceId turn).devices deviceId' = s.devices deviceId' := Function.update_of_ne h ..

/-- It leaves its handler in place. -/
@[simp] theorem State.apply_handlers_self :
    (s.apply ws deviceId turn).handlers ws = some turn.handler := Function.update_self ..

/-- And the other handlers alone. -/
theorem State.apply_handlers_of_ne {ws' : Socket} (h : ws' ≠ ws) :
    (s.apply ws deviceId turn).handlers ws' = s.handlers ws' := Function.update_of_ne h ..

/-- Its events are added to the log. -/
@[simp] theorem State.apply_log :
    (s.apply ws deviceId turn).log = s.log ++ turn.events := rfl

/-- It takes one unit of time. -/
@[simp] theorem State.apply_time : (s.apply ws deviceId turn).time = s.time + 1 := rfl

end Apply

/-- The socket whose handler takes the step. -/
def Label.socket? : Label → Option Socket
  | .message ws _ _ => some ws
  | .close ws => some ws
  | .resume ws _ => some ws
  | _ => none

/-- The turns of a handler that has a device. -/
inductive TurnOf (s : State) (ws : Socket) (h : Handler) (deviceId : DeviceId) :
    Label → Turn → Prop
  | message (message : Message) (saved : Bool) (hreceive : h.point = .receive)
      (hown : (s.devices deviceId).ownedBy ws = true) :
      TurnOf s ws h deviceId (.message ws message saved)
        (handleOwn ws (s.devices deviceId) h s.time deviceId message)
  | raise (data : RegisterData) (saved : Bool) (hreceive : h.point = .receive)
      (hrequest : h.request data = .raise) :
      TurnOf s ws h deviceId (.message ws (.register data) saved)
        ((leave ws (s.devices deviceId) h).after (received data))
  | close (hreceive : h.point = .receive) :
      TurnOf s ws h deviceId (.close ws) (leave ws (s.devices deviceId) h)
  | resume (answer : Answer) :
      TurnOf s ws h deviceId (.resume ws answer)
        (Connections.resume ws (s.devices deviceId) h s.time deviceId h.point answer)

/-- What a step can be. -/
inductive Happens (s : State) : Label → State → Prop
  | nothing (label : Label) : Happens s label s
  | connected (ws : Socket) (remote : Option Str) (hnew : s.handlers ws = none) :
      Happens s (.connect ws remote) (s.park ws { remote := remote } [])
  | parked (label : Label) (ws : Socket) (h h' : Handler) (events : List Event)
      (hsocket : label.socket? = some ws) (hhandler : s.handlers ws = some h)
      (hid : h'.deviceId = h.deviceId) (hclaim : h'.claim = h.claim)
      (hbefore : h.point = .receive ∨ h.deviceId = none)
      (hafter : h'.between = false ∧ ∀ version, h'.point ≠ .completing version)
      (hclosed : h'.point = .closed → h.deviceId = none)
      (hevents : ∀ event ∈ events, ∃ data saved,
        label = .message ws (.register data) saved ∧ h.point = .receive ∧ event ∈ received data ∧
          ∀ kind deviceId version, h.request data ≠ .claim kind deviceId version) :
      Happens s label (s.park ws h' events)
  | turned (label : Label) (ws : Socket) (h : Handler) (deviceId : DeviceId) (turn : Turn)
      (hhandler : s.handlers ws = some h) (hid : h.deviceId = some deviceId)
      (hturn : TurnOf s ws h deviceId label turn) :
      Happens s label (s.apply ws deviceId turn)
  | claimed (ws : Socket) (data : RegisterData) (saved : Bool) (h : Handler) (kind : IdentityKind)
      (deviceId : DeviceId) (version : Option Int) (hhandler : s.handlers ws = some h)
      (hreceive : h.point = .receive) (hrequest : h.request data = .claim kind deviceId version) :
      Happens s (.message ws (.register data) saved)
        (s.apply ws deviceId
          ((claimDevice ws (s.devices deviceId) h s.time kind deviceId version saved).after
            (received data)))
  | fired (t : Nat) (saved : Bool) (timer : Timer) (htimer : s.timers t = some timer) :
      Happens s (.fire t saved)
        { s with
          devices := Function.update s.devices timer.deviceId
            (fire (s.devices timer.deviceId) timer saved).1
          timers := Function.update s.timers t none
          log := s.log ++ (fire (s.devices timer.deviceId) timer saved).2
          time := s.time + 1 }
  | forgotten (deviceId : DeviceId) (hoffline : (s.devices deviceId).connection = none) :
      Happens s (.forgetDevice deviceId)
        { s with
          devices := Function.update s.devices deviceId
            { s.devices deviceId with retired := none, pendingRetire := none }
          timers := fun t => if t ∈ (s.devices deviceId).retireTimer then none else s.timers t
          time := s.time + 1 }
  | transferred (label : Label) (deviceId : DeviceId) (dispatch : Option Dispatch)
      (transfers : Str → Bool) (hsocket : label.socket? = none) :
      Happens s label
        { s with
          devices := Function.update s.devices deviceId
            { s.devices deviceId with lastInstallDispatch := dispatch, transfers := transfers }
          time := s.time + 1 }
  | restarted (registry : DeviceId → Option Bool) :
      Happens s (.restart registry)
        { devices := fun deviceId => { retired := registry deviceId }
          log := s.log
          time := s.time + 1 }

section Complete

variable (s : State) {ws : Socket} {h : Handler}

/-- A `REGISTER`, whatever it brings. -/
theorem happens_register (data : RegisterData) (saved : Bool) (hhandler : s.handlers ws = some h)
    (hreceive : h.point = .receive) :
    Happens s (.message ws (.register data) saved) (s.handleRegister ws h data saved) := by
  have hpark : ∀ h' : Handler, h'.deviceId = h.deviceId → h'.claim = h.claim →
      (h'.between = false ∧ ∀ version, h'.point ≠ .completing version) →
      (h'.point = .closed → h.deviceId = none) →
      (∀ kind deviceId version, h.request data ≠ .claim kind deviceId version) →
      Happens s (.message ws (.register data) saved) (s.park ws h' (received data)) := by
    intro h' hid hclaim hafter hclosed hrequest
    exact .parked _ ws h h' _ rfl hhandler hid hclaim (.inl hreceive) hafter hclosed
      fun event hevent => ⟨data, saved, rfl, hreceive, hevent, hrequest⟩
  rw [State.handleRegister]
  split
  · rename_i hrequest
    exact hpark _ rfl rfl ⟨rfl, by simp⟩ (by simp) (by simp [hrequest])
  · rename_i hrequest
    exact hpark _ rfl rfl ⟨rfl, by simp⟩ (by simp) (by simp [hrequest])
  · rename_i hrequest
    exact hpark _ rfl rfl ⟨rfl, by simp⟩ (by simp) (by simp [hrequest])
  · rename_i kind deviceId version hrequest
    exact .claimed ws data saved h kind deviceId version hhandler hreceive hrequest
  · rename_i hrequest
    split
    · rename_i hid
      exact hpark _ rfl rfl ⟨rfl, by simp⟩ (fun _ => hid) (by simp [hrequest])
    · rename_i deviceId hid
      exact .turned _ ws h deviceId _ hhandler hid (.raise data saved hreceive hrequest)

/-- Any other message. -/
theorem happens_message (message : Message) (saved : Bool) (hhandler : s.handlers ws = some h)
    (hreceive : h.point = .receive) :
    Happens s (.message ws message saved) (s.handleMessage ws h message saved) := by
  have hsame : Happens s (.message ws message saved) (s.park ws h []) :=
    .parked _ ws h h [] rfl hhandler rfl rfl (.inl hreceive)
      ⟨by rw [Handler.between, hreceive], by simp [hreceive]⟩ (by simp [hreceive]) (by simp)
  rw [State.handleMessage.eq_def]
  split
  · exact happens_register s _ saved hhandler hreceive
  · split
    · exact hsame
    · rename_i deviceId hid
      split_ifs with hown
      · exact hsame
      · exact .turned _ ws h deviceId _ hhandler hid
          (.message message saved hreceive (by simpa using hown))

/-- A close. -/
theorem happens_close (hhandler : s.handlers ws = some h) (hreceive : h.point = .receive) :
    Happens s (.close ws)
      (match h.deviceId with
        | none => s.park ws (h.at .closed) []
        | some deviceId => s.apply ws deviceId (leave ws (s.devices deviceId) h)) := by
  split
  · rename_i hid
    exact .parked _ ws h _ [] rfl hhandler rfl rfl (.inl hreceive) ⟨rfl, by simp⟩ (fun _ => hid)
      (by simp)
  · rename_i deviceId hid
    exact .turned _ ws h deviceId _ hhandler hid (.close hreceive)

/-- Every step is one of those listed. -/
theorem step_happens (label : Label) : Happens s label (s.step label) := by
  rw [State.step.eq_def]
  split
  · rename_i ws remote
    split
    · rename_i hnew
      exact .connected ws remote hnew
    · exact .nothing _
  · split
    · exact .nothing _
    · rename_i h hhandler
      split
      · rename_i hreceive
        exact happens_message s _ _ hhandler hreceive
      · exact .nothing _
  · split
    · exact .nothing _
    · rename_i h hhandler
      split
      · rename_i hreceive
        exact happens_close s hhandler hreceive
      · exact .nothing _
  · rename_i ws answer
    split
    · exact .nothing _
    · rename_i h hhandler
      split
      · rename_i deviceId hid
        exact .turned _ ws h deviceId _ hhandler hid (.resume answer)
      · rename_i hid
        split
        · exact .parked _ ws h _ [] rfl hhandler rfl rfl (.inr hid) ⟨rfl, by simp⟩ (by simp)
            (by simp)
        · exact .nothing _
        · exact .nothing _
        · exact .parked _ ws h _ [] rfl hhandler rfl rfl (.inr hid) ⟨rfl, by simp⟩ (fun _ => hid)
            (by simp)
  · rename_i t saved
    split
    · exact .nothing _
    · rename_i timer htimer
      exact .fired t saved timer htimer
  · rename_i deviceId
    split_ifs with hoffline
    · exact .nothing _
    · exact .forgotten deviceId (by simpa using hoffline)
  · exact .transferred _ _ _ _ rfl
  · exact .transferred _ _ (s.devices _).lastInstallDispatch _ rfl
  · exact .restarted _

end Complete

/-! ### Turns of the server -/

section TurnOf

variable {s : State} {ws : Socket} {h : Handler} {deviceId : DeviceId} {label : Label} {turn : Turn}

/-- What is noted before a turn is no part of it. -/
theorem Turn.Orderly.after {dev : Device} (hturn : turn.Orderly ws dev h) (events : List Event) :
    (turn.after events).Orderly ws dev h :=
  { hturn with }

/-- Every turn is orderly. -/
theorem TurnOf.orderly (hturn : TurnOf s ws h deviceId label turn) :
    turn.Orderly ws (s.devices deviceId) h := by
  cases hturn with
  | message message saved hreceive hown => exact orderly_handleOwn message hown
  | raise data saved hreceive hrequest => exact orderly_leave.after _
  | close hreceive => exact orderly_leave
  | resume answer => exact orderly_resume answer

/-- A handler that has ended does not go on. -/
theorem TurnOf.closed (hturn : TurnOf s ws h deviceId label turn) (hclosed : h.point = .closed) :
    turn.handler.point = .closed := by
  cases hturn with
  | message message saved hreceive hown =>
    rw [hclosed] at hreceive
    exact absurd hreceive (by simp)
  | raise data saved hreceive hrequest =>
    rw [hclosed] at hreceive
    exact absurd hreceive (by simp)
  | close hreceive =>
    rw [hclosed] at hreceive
    exact absurd hreceive (by simp)
  | resume answer =>
    rw [hclosed, Connections.resume]
    exact hclosed

/-- A turn belongs to the socket of its label. -/
theorem TurnOf.socket (hturn : TurnOf s ws h deviceId label turn) : label.socket? = some ws := by
  cases hturn <;> rfl

/-- The device of a registration is the one the `REGISTER` names. -/
theorem deviceId_of_parseRegistration {data : RegisterData} {remote : Option Str}
    {kind : IdentityKind} {requested model ip versionName : Str} {version : Option Int}
    {startupApp : Value}
    (hparse : Registry.parseRegistration data remote =
      .device kind requested model ip versionName version startupApp) :
    data.deviceId = .str requested := by
  unfold Registry.parseRegistration at hparse
  simp only at hparse
  split at hparse
  · split at hparse
    · rename_i hid
      split_ifs at hparse
      simp only [Registry.Registration.device.injEq] at hparse
      rw [hid, hparse.2.1]
    · exact absurd hparse (by simp)
  · split_ifs at hparse
    split at hparse
    · rename_i hid
      split_ifs at hparse
      simp only [Registry.Registration.device.injEq] at hparse
      rw [hid, hparse.2.1]
    · unfold Registry.parseProvisional at hparse
      split_ifs at hparse
      split at hparse
      · exact absurd hparse (by simp)
      · exact absurd hparse (by simp)
    · exact absurd hparse (by simp)
  · exact absurd hparse (by simp)

/-- A socket that has no device yet claims one. -/
theorem Handler.request_eq_claim {data : RegisterData} {kind : IdentityKind}
    {version : Option Int} (hrequest : h.request data = .claim kind deviceId version) :
    h.deviceId = none ∧ data.deviceId = .str deviceId := by
  rw [Handler.request] at hrequest
  split at hrequest
  · exact absurd hrequest (by simp)
  · exact absurd hrequest (by simp)
  · split_ifs at hrequest
  · rename_i hparse
    split at hrequest
    · split_ifs at hrequest
    · rename_i hid
      split_ifs at hrequest
      simp only [Request.claim.injEq] at hrequest
      exact ⟨hid, hrequest.2.1 ▸ deviceId_of_parseRegistration hparse⟩

end TurnOf

/-- The turn of a socket that claims a device. -/
structure Turn.Claims (ws : Socket) (now : Nat) (deviceId : DeviceId) (turn : Turn) : Prop where
  deviceId : turn.handler.deviceId = some deviceId
  claim : turn.handler.claim = now
  connection : ∀ c, turn.device.connection = some c → c.ws = ws
  deleted : turn.device.connection = none → turn.handler.point = .closed

/-- `_claim_device` claims the device at its time. -/
theorem claims_claimDevice (ws : Socket) (dev : Device) (h : Handler) (now : Nat)
    (kind : IdentityKind) (deviceId : DeviceId) (version : Option Int) (saved : Bool) :
    (claimDevice ws dev h now kind deviceId version saved).Claims ws now deviceId := by
  rw [claimDevice]
  split_ifs
  · exact ⟨rfl, rfl, fun c hc => by rw [← Option.some.inj hc], fun hnone => absurd hnone (by simp)⟩
  · have hleave : (leave ws
        { dev with
          connection := some { ws := ws, identityKind := kind, registrationReady := false }
          retired := some false }
        { h with
          provisional := false, deviceId := some deviceId, identityKind := some kind
          claim := now }).Orderly ws _ _ := orderly_leave
    refine ⟨hleave.deviceId, hleave.claim, ?_, ?_⟩
    · intro c hc
      obtain ⟨c', hc', hws⟩ := hleave.connection c hc
      rw [← hws, ← Option.some.inj hc']
    · intro hnone
      rcases hleave.deleted hnone with habsent | hclosed
      · exact absurd habsent (by simp)
      · exact hclosed

end StylyMdm.Connections
