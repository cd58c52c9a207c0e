import StylyMdm.Handshake.Runs

/-!
# What a registration means

The results about a client and the server, in every run: the server knows a device only by the
identity that the client has (`identity_agreement`), what the client does is what it was asked to
do, and it ignores nothing that it was asked (`command_confinement`), a result is taken for the
answer to the command that it answers (`result_attribution`), and when nothing is under way, the two
sides know the same (`registration_settles`).

All of them are about runs in which no discovery thread of the client outlives all of its attempt
generations (`Timely`), since the sockets of the client are told apart by the connection window.

* `Meant` is what a command has to be for the client to act on it: addressed to the identity that
  the client has, or to the provisional connection that it has been given.
* `Settled` says that nothing is under way on the registered socket, in either direction or on the
  looper, and that its handler waits for a message. `Alike` is what the two sides then have of each
  other. Commands to a device are permitted as long as the socket owns it in `devices`: an older
  socket that is still closing can delete the entry, and the device is then served again when it
  registers the next time.

The runs beside the results have a reboot of the device and a promotion from a provisional
registration to a canonical one.
-/

namespace StylyMdm.Handshake

open Text Py Registry Client.Identity Client.Connection

variable {Network : Type*}

/-! ### The resolver -/

namespace Client

variable {c : Client Network} {later : Int}

/-- The actions of the scheduler leave the resolver alone. -/
theorem foldl_resolver (actions : List Action) :
    (actions.foldl (perform later) c).resolver = c.resolver := by
  induction actions generalizing c with
  | nil => rfl
  | cons action actions ih =>
    rw [List.foldl_cons, ih]
    cases action <;> rfl

/-- So does a decision. -/
theorem dispatch_resolver (decision : ConnectionScheduler × List Action) :
    (c.dispatch later decision).resolver = c.resolver :=
  foldl_resolver decision.2

/-- And a registration. -/
theorem sendRegistration_resolver (facts : Facts) (socket : Nat) (identity : DeviceIdentityState)
    (accepted : Bool) :
    (c.sendRegistration facts socket identity accepted).1.resolver = c.resolver := by
  obtain ⟨r, -, hclient, -⟩ := c.sendRegistration_eq facts socket identity accepted
  rw [hclient]

/-- And a message of the looper. -/
theorem turn_resolver [DecidableEq Network] (c : Client Network) (build : Build) (t : Turn Network)
    (facts : Facts) (accepted : Bool) :
      (c.turn build t facts accepted).1.resolver = c.resolver := by
  have hhandle : (c.handle build t facts accepted).1.resolver = c.resolver := by
    rw [handle]
    split
    · split_ifs
      · rfl
      · exact dispatch_resolver _
    · split_ifs
      · rfl
      · exact dispatch_resolver _
    · split_ifs
      · rfl
      · exact (sendRegistration_resolver ..).trans (dispatch_resolver _)
    · split_ifs
      · rfl
      · exact dispatch_resolver _
    · split
      · exact dispatch_resolver _
      · rfl
    · split
      · exact dispatch_resolver _
      · rfl
    · rfl
    · rfl
  rw [turn]
  split_ifs
  · exact hhandle
  · rfl

end Client

namespace World

variable {w : World Network}

/-- Taking a message is no change of the client. -/
theorem nextMessage_client {ws : Socket} {stray message : Up} {w' : World Network}
    (hnext : w.nextMessage ws stray = some (message, w')) : w'.client = w.client := by
  cases ws with
  | other n => rw [← (Prod.mk.inj (Option.some.inj hnext)).2]
  | own n =>
    rw [nextMessage] at hnext
    split at hnext
    · cases hnext
    · rw [← (Prod.mk.inj (Option.some.inj hnext)).2]
      rfl

/-- Nor is handling it. -/
theorem receive_client (ws : Socket) (stray : Up) (connectionId : Str) (saved verifying : Bool) :
    (w.receive ws stray connectionId saved verifying).client = w.client := by
  rw [receive]
  split
  · rfl
  · split_ifs
    · rfl
    · split
      · rfl
      · rename_i message w' hnext
        rw [← nextMessage_client hnext]
        split
        · rfl
        · split <;> rfl
        · rfl

/-- A message of the identity listener leaves the resolver alone. -/
theorem posted_resolver (facts : Facts) (accepted : Bool) :
    (w.posted facts accepted).client.resolver = w.client.resolver := by
  simp only [posted, transmit_client, Client.runPosted]
  split
  · rfl
  · split
    · split_ifs
      · exact Client.sendRegistration_resolver ..
      · rfl
    · rfl

/-- So does a power thread. -/
theorem power_resolver (i : Nat) (fails accepted : Bool) :
    (w.power i fails accepted).client.resolver = w.client.resolver := by
  have hset : ∀ thread, (w.client.setThread i thread).resolver = w.client.resolver := by
    intro thread
    cases thread <;> rfl
  rw [power]
  split
  · rfl
  · exact (congrArg Client.resolver (transmit_client _)).trans (hset _)

variable [DecidableEq Network] {build : Build}

/-- And the main looper. -/
theorem looper_resolver (t : Turn Network) (facts : Facts) (accepted : Bool) :
    (w.looper build t facts accepted).client.resolver = w.client.resolver := by
  have hturn := w.client.turn_resolver build t facts (w.currentAccepts accepted)
  simp only [looper]
  split_ifs
  · split
    · split_ifs
      · rfl
      · rw [transmit_client]
        exact hturn
    · split_ifs
      · rw [transmit_client]
        exact hturn
      · rfl
    · rw [transmit_client]
      exact hturn
  · rfl

/-- Nothing but its own steps changes the resolver. -/
theorem step_resolver (event : Event Network)
    (hevent : ∀ event', event ≠ .resolve event') :
    (w.step build event).client.resolver = w.client.resolver := by
  cases event with
  | resolve event' => exact absurd rfl (hevent event')
  | looper t facts accepted => exact looper_resolver t facts accepted
  | posted facts accepted => exact posted_resolver facts accepted
  | read n =>
    simp only [step, read]
    split
    · split <;> rfl
    · obtain ⟨r, threads, hclient, -⟩ :=
        (w.client.onMessage_reads n (!(w.links n).lost) (w.links n).reader).client
      exact (congrArg Client.resolver hclient).trans rfl
  | power i fails accepted => exact power_resolver i fails accepted
  | sendMessage message =>
    show (w.sendMessage message).client.resolver = _
    unfold sendMessage
    split
    · rfl
    · rw [transmit_client]
  | lose n up down => rfl
  | connect ws remote =>
    simp only [step, connect]
    split_ifs <;> rfl
  | receive ws stray connectionId saved verifying =>
    exact congrArg Client.resolver (receive_client ws stray connectionId saved verifying)
  | resume ws failed verifying =>
    simp only [step, resume]
    split
    · rfl
    · rw [deliver_client]
      rfl
  | close ws graceful verifying =>
    simp only [step, close]
    split
    · rfl
    · split_ifs <;> rfl
  | command ws deviceId type =>
    simp only [step, command]
    split_ifs <;> rfl
  | powerCommand ws type =>
    simp only [step, powerCommand]
    split
    · rfl
    · split_ifs <;> rfl
  | write i =>
    simp only [step, write]
    split
    · rfl
    · split_ifs
      · rw [deliver_client]
        rfl
      · rfl
  | abandon i => rfl
  | restart => rfl

/-- The client does not give up an identity that it has found. -/
theorem Agrees.ready_step (hagrees : w.Agrees) {deviceId : DeviceId}
    (hready : w.client.resolver.visibleState = .ready deviceId) (event : Event Network) :
    (w.step build event).client.resolver.visibleState = .ready deviceId := by
  by_cases hevent : ∃ event', event = .resolve event'
  · obtain ⟨event', rfl⟩ := hevent
    exact (Client.Identity.ready_step hagrees.aligned.singleFlight hready event').1
  · rw [step_resolver event (not_exists.mp hevent)]
    exact hready

/-! ### Runs -/

variable (build : Build) (resolved : List DeviceIdentityResolver.Event) (preferences : Preferences)

/-- The system after some events. -/
def after (events : List (Event Network)) : World Network :=
  Run.exec (step build) (start resolved preferences) events

/-- No discovery thread of the client is still under way after all of its generations. -/
def Timely (events : List (Event Network)) : Prop :=
  Run.Along (step build) (fun w event => (w.step build event).client.manager.Young)
    (start resolved preferences) events

instance (events : List (Event Network)) : Decidable (Timely build resolved preferences events) :=
  inferInstanceAs (Decidable (Run.Along (step build)
    (fun w event => (w.step build event).client.manager.Young) (start resolved preferences) events))

variable {build resolved preferences} {events later : List (Event Network)}

/-- The invariant holds after every timely run. -/
theorem invariant_after (h : Timely build resolved preferences events) :
    (after build resolved preferences events).client.manager.Young ∧
      (after build resolved preferences events).Agrees := by
  refine h.invariant (I := fun w => w.client.manager.Young ∧ w.Agrees) ?_
    ⟨fun _ hd => (by cases hd), agrees_start resolved preferences⟩
  rintro w event ⟨hyoung, hagrees⟩ hnext
  exact ⟨hnext, hagrees.step hyoung event⟩

/-- An identity is final. -/
theorem ready_later (h : Timely build resolved preferences (events ++ later)) {deviceId : DeviceId}
    (hready : (after build resolved preferences events).client.resolver.visibleState =
      .ready deviceId) :
    (after build resolved preferences (events ++ later)).client.resolver.visibleState =
      .ready deviceId := by
  obtain ⟨hfirst, hlater⟩ := Run.along_append.mp h
  obtain ⟨hyoung, hagrees⟩ := invariant_after hfirst
  rw [after, Run.exec_append]
  refine (hlater.invariant (I := fun w => (w.client.manager.Young ∧ w.Agrees) ∧
    w.client.resolver.visibleState = .ready deviceId) ?_ ⟨⟨hyoung, hagrees⟩, hready⟩).2
  rintro w event ⟨⟨hyoung, hagrees⟩, hready⟩ hnext
  exact ⟨⟨hnext, hagrees.step hyoung event⟩, hagrees.ready_step hready event⟩

/-! ### A reboot and a promotion -/

/-- The identity of the device. -/
private def guid : Str := ofString "0f8fad5b-d9cb-469f-a165-70867728950e"

/-- The connection id of the provisional registration. -/
private def hexId : Str := ofString "c0ffee"

/-- What the client reports of itself. -/
private def facts : Facts := ⟨ofString "PICO 4", ofString "10.0.0.7", ofString "1.2", 12, .null⟩

/-- A build to which every address is valid. -/
private def anyUrl : Build := ⟨fun _ => true, "ws://x"⟩

/-- Preferences with a manual address. -/
private def manualMode : Preferences := ⟨none, some "ws://h"⟩

/-- A reboot for the provisional connection. -/
private def rebootCommand : Command := ⟨.reboot, some hexId, .connection hexId⟩

/-- A client without an identity registers and is asked to reboot, which it does. -/
private def rebooted : List (Event Unit) :=
  [.posted facts true, .looper ⟨.networkAvailable (), 0, 0, {}⟩ facts true,
    .connect (.own 0) none, .looper ⟨.socketOpened 0, 0, 0, {}⟩ facts true,
    .receive (.own 0) .other hexId true false, .resume (.own 0) false false, .read 0, .read 0,
    .resume (.own 0) false false, .resume (.own 0) false false,
    .powerCommand (.own 0) .reboot, .write 0, .read 0, .read 0, .read 0, .read 0, .read 0, .read 0,
    .read 0, .power 0 false true, .power 0 false true, .power 0 false true, .power 0 false true,
    .receive (.own 0) .other hexId true false, .resume (.own 0) false false]

/-- Then it finds its identity and registers again. -/
private def promoted : List (Event Unit) :=
  [.resolve .startInitialLookup,
    .resolve (.complete (.found ⟨.success, some guid, false, []⟩)), .resolve .publish,
    .posted facts true, .receive (.own 0) .other hexId true false, .resume (.own 0) false false,
    .resume (.own 0) false false, .resume (.own 0) false false, .read 0, .read 0,
    .resume (.own 0) false false, .resume (.own 0) false false]

/-- The run of the reboot is timely. -/
private theorem rebooted_timely : Timely anyUrl [] manualMode rebooted := by decide +kernel

/-- And so is the promotion that follows. -/
private theorem promoted_timely : Timely anyUrl [] manualMode (rebooted ++ promoted) := by
  decide +kernel

/-- The reboot is handled and carried out, and its result forwarded. -/
private theorem rebooted_log :
    (after anyUrl [] manualMode rebooted).log =
      [.handled 0 rebootCommand, .invoked 0 rebootCommand,
        .forwarded (.own 0) (.connection hexId)
          ⟨.reboot, some (.str hexId), some (.connection hexId)⟩] := rfl

/-! ### Results -/

omit [DecidableEq Network] in
/-- A socket of the client that is served as a device is served as the one that the client is. -/
theorem Agrees.ready_of_deviceId {w : World Network} (hagrees : w.Agrees) {n : Nat}
    {deviceId : DeviceId} (hdevice : (w.server.handler (.own n)).deviceId = some deviceId) :
    w.client.resolver.visibleState = .ready deviceId ∧
      (w.server.handler (.own n)).identityKind = some .canonical ∧
      isCanonicalDeviceId deviceId = true := by
  obtain ⟨hready, hkind⟩ := (hagrees.sockets n).upstream.device deviceId hdevice
  have hcanonical := hagrees.aligned.singleFlight.visible
  rw [hready] at hcanonical
  exact ⟨hready, hkind, hcanonical⟩

/-- **The server knows the client by its identity only.** An entry or a session that one of the
client's sockets has is under the identity of the client, which is canonical and final. -/
theorem identity_agreement (h : Timely build resolved preferences (events ++ later)) {n : Nat}
    {deviceId : DeviceId}
    (hbooked : (after build resolved preferences events).server.owns deviceId (.own n) = true ∨
      (after build resolved preferences events).server.sessions deviceId = some (.own n)) :
    isCanonicalDeviceId deviceId = true ∧
      (∀ entry, (after build resolved preferences events).server.devices deviceId = some entry →
        entry.ws = .own n → entry.identityKind = .canonical) ∧
      (after build resolved preferences (events ++ later)).client.resolver.visibleState =
        .ready deviceId := by
  have hagrees := (invariant_after (Run.along_append.mp h).1).2
  have hdevice : ((after build resolved preferences events).server.handler
      (.own n)).deviceId = some deviceId := by
    rcases hbooked with howns | hsession
    · obtain ⟨entry, hentry, hws⟩ := Server.owns_iff.mp howns
      obtain ⟨handler, hw, hdevice, -⟩ := hagrees.sound.owner deviceId entry hentry
      rw [Server.handler_eq (hws ▸ hw), hdevice]
    · obtain ⟨handler, hw, hdevice⟩ := hagrees.sound.session deviceId _ hsession
      rw [Server.handler_eq hw, hdevice]
  obtain ⟨hready, hkind, hcanonical⟩ := hagrees.ready_of_deviceId hdevice
  refine ⟨hcanonical, fun entry hentry hws => ?_, ready_later h hready⟩
  obtain ⟨handler, hw, -, hkind'⟩ := hagrees.sound.owner deviceId entry hentry
  rw [Server.handler_eq (hws ▸ hw)] at hkind
  exact Option.some.inj (hkind'.symm.trans hkind)

/-- After the promotion the device is canonical, and a restart of the server does not change its
identity. -/
theorem identity_agreement_promoted :
    isCanonicalDeviceId guid = true ∧
      (∀ entry,
        (after anyUrl [] manualMode (rebooted ++ promoted)).server.devices guid = some entry →
          entry.ws = .own 0 → entry.identityKind = .canonical) ∧
      (after anyUrl [] manualMode
        (rebooted ++ promoted ++ [.restart])).client.resolver.visibleState = .ready guid :=
  identity_agreement (by decide +kernel) (.inl (by decide +kernel))

/-- A command is for this client: for the device that it is, or for the provisional connection that
its socket `n` is. -/
inductive Meant (w : World Network) (n : Nat) (command : Command) : Prop
  | device (deviceId : DeviceId) (htarget : command.target = .device deviceId)
    (hready : w.client.resolver.visibleState = .ready deviceId)
    (hid : command.connectionId = none)
  | connection (connectionId : Str) (htarget : command.target = .connection connectionId)
    (hissued : (w.server.handler (.own n)).issued = some connectionId)
    (hid : command.connectionId = some connectionId) (hpower : command.type.isPower = true)

omit [DecidableEq Network] in

/-- A command that is addressed to a socket is meant for it. -/
theorem Agrees.meant {w : World Network} (hagrees : w.Agrees) {n : Nat} {command : Command}
    (haddressed : (w.server.handler (.own n)).Addressed command) : w.Meant n command := by
  obtain ⟨hserves, hid, hpower⟩ := haddressed
  cases htarget : command.target with
  | device deviceId =>
    rw [htarget] at hserves hid
    exact .device deviceId htarget (hagrees.ready_of_deviceId hserves).1 hid
  | connection connectionId =>
    rw [htarget] at hserves hid
    refine .connection connectionId htarget hserves hid (hpower ?_)
    rw [hid]
    exact Option.some_ne_none connectionId

/-- **A command stays where it belongs, and arrives.** The client acts only on commands for itself,
and a command that it ignores came on a socket that it had let go of, or that was lost. -/
theorem command_confinement (h : Timely build resolved preferences events) {n : Nat}
    {command : Command} :
    ((.handled n command ∈ (after build resolved preferences events).log ∨
      .invoked n command ∈ (after build resolved preferences events).log) →
        (after build resolved preferences events).Meant n command) ∧
      ∀ current, .ignored n command current ∈ (after build resolved preferences events).log →
        current = false := by
  have hagrees := (invariant_after h).2
  refine ⟨fun hacted => ?_, fun current hignored => hagrees.log _ hignored⟩
  rcases hacted with hhandled | hinvoked
  · exact hagrees.meant (hagrees.log _ hhandled)
  · exact hagrees.meant (hagrees.log _ hinvoked)

/-- The reboot is meant for the socket of the client. -/
theorem command_confinement_rebooted :
    (after anyUrl [] manualMode rebooted).Meant 0 rebootCommand := by
  refine (command_confinement rebooted_timely).1 (.inr ?_)
  rw [rebooted_log]
  exact .tail _ (.head _)

/-- **A result is taken for what it is.** The server forwards a result of the client under the
client's own identity, or under the connection id of its socket; the result of a command under the
one that the command was given to. -/
theorem result_attribution (h : Timely build resolved preferences events) {n : Nat}
    {sender : Target}
    {result : Result}
    (hforwarded : .forwarded (.own n) sender result ∈
      (after build resolved preferences events).log) :
    (∀ target, result.answers = some target → target = sender) ∧
      (∀ deviceId, sender = .device deviceId →
        (after build resolved preferences events).client.resolver.visibleState =
          .ready deviceId) ∧
      ∀ connectionId, sender = .connection connectionId →
        ((after build resolved preferences events).server.handler (.own n)).issued =
          some connectionId := by
  have hagrees := (invariant_after h).2
  obtain ⟨hserves, hanswers⟩ := hagrees.log _ hforwarded
  refine ⟨hanswers n rfl, fun deviceId hsender => ?_, fun connectionId hsender => ?_⟩
  · rw [hsender] at hserves
    exact (hagrees.ready_of_deviceId hserves).1
  · rw [hsender] at hserves
    exact hserves

/-- And its result is attributed to the connection id of that socket. -/
theorem result_attribution_rebooted :
    ((after anyUrl [] manualMode rebooted).server.handler (.own 0)).issued = some hexId := by
  have hforwarded : .forwarded (.own 0) (.connection hexId)
      ⟨.reboot, some (.str hexId), some (.connection hexId)⟩ ∈
        (after anyUrl [] manualMode rebooted).log := by
    rw [rebooted_log]
    exact .tail _ (.tail _ (.head _))
  exact (result_attribution rebooted_timely hforwarded).2.2 hexId rfl

/-! ### When nothing is under way -/

/-- The socket is registered and its connection intact, nothing is under way on it, and its handler
waits for a message. -/
structure Settled (w : World Network) (n : Nat) : Prop where
  registered : w.client.registration.socket = some n
  intact : (w.links n).lost = false
  posted : w.client.posted = []
  up : (w.links n).up = []
  inbound : (w.links n).inbound = []
  waits : ∃ h, w.server.handlers (.own n) = some h ∧ h.point = .receive

/-- The two sides know the same of the socket `n`. A client with an identity is taken for its
device, and served as it as long as the socket owns the device in `devices`. A client without one is
served as a provisional connection, of which the server knows why it has none. -/
inductive Alike (w : World Network) (n : Nat) : Prop
  | device (deviceId : DeviceId) (hready : w.client.resolver.visibleState = .ready deviceId)
    (hdevice : (w.server.handler (.own n)).deviceId = some deviceId)
    (hserved : w.server.owns deviceId (.own n) = true →
      w.server.Served (.own n) deviceId ∧ w.client.registration.acknowledgement = .canonical ∧
        ∀ type, w.server.permits (.own n) ⟨type, none, .device deviceId⟩ = true)
  | connection (entry : Provisional) (hentry : w.server.provisional (.own n) = some entry)
    (hunknown : ∀ deviceId, w.client.resolver.visibleState ≠ .ready deviceId)
    (hidentity : entry.identity = .of w.client.resolver.visibleState)
    (hready : entry.registrationReady = true)
    (hacknowledged : w.client.registration.acknowledgement = .provisional ∧
      w.client.registration.provisionalConnectionId = some entry.connectionId)
    (hpermits : ∀ type : CommandType, type.isPower = true → w.server.permits (.own n)
      ⟨type, some entry.connectionId, .connection entry.connectionId⟩ = true)

omit [DecidableEq Network] in

/-- Both sides agree on a device with a ready identity. -/
theorem Agrees.alike_of_ready {w : World Network} (hagrees : w.Agrees) {n : Nat}
    (hsettled : w.Settled n) {deviceId : DeviceId}
    (hready : w.client.resolver.visibleState = .ready deviceId) : w.Alike n := by
  obtain ⟨h, hw, hpoint⟩ := hsettled.waits
  have hh := Server.handler_eq hw
  obtain ⟨hannounced, ⟨standing, hstands, hheard⟩, -⟩ :=
    (hagrees.sockets n).agreed hsettled.registered hsettled.intact
  have hdevice : h.deviceId = some deviceId := by
    have htold := hannounced.told hsettled.posted
    rw [hsettled.up, hready, hh] at htold
    cases htold with
    | known hknown _ => exact hknown
    | underWay before facts after hup _ => simp at hup
  refine .device deviceId hready (hh ▸ hdevice) fun howns => ?_
  obtain ⟨hpush, hserved⟩ := (hagrees.sound.atPoint hw hpoint).2 deviceId hdevice
  obtain ⟨entry, hentry, hws, hentryReady, hsession⟩ := hserved howns
  have hkind : entry.identityKind = .canonical := by
    obtain ⟨h₀, hh₀, -, hkind⟩ := hagrees.sound.owner deviceId entry hentry
    obtain rfl := Option.some.inj (hw.symm.trans (hws ▸ hh₀))
    have hcanonical := (hagrees.ready_of_deviceId (hh ▸ hdevice)).2.1
    rw [hh] at hcanonical
    exact Option.some.inj (hkind.symm.trans hcanonical)
  have hnone : w.server.provisional (.own n) = none := by
    refine Option.eq_none_iff_forall_not_mem.mpr fun provisional hprovisional => ?_
    obtain ⟨h₀, hh₀, hnot, -⟩ := hagrees.sound.entry _ provisional hprovisional
    obtain rfl := Option.some.inj (hw.symm.trans hh₀)
    exact absurd (hdevice.symm.trans hnot) (by simp)
  refine ⟨⟨entry, hentry, hws, hentryReady, hsession⟩, ?_, fun type => ?_⟩
  · -- nothing is left to be read, so the client has heard what it will have heard
    have hstanding := hheard.ready deviceId entry hentry hws hentryReady
    rw [hsettled.inbound] at hstanding
    obtain rfl : standing = .canonical := hstanding
    exact hstands
  · simp [Server.permits, hnone, hw, hpush, hentry, hws, hsession, Entry.allows, hentryReady, hkind]

omit [DecidableEq Network] in

/-- And on one without. -/
theorem Agrees.alike_of_not_ready {w : World Network} (hagrees : w.Agrees) {n : Nat}
    (hsettled : w.Settled n)
    (hunknown : ∀ deviceId, w.client.resolver.visibleState ≠ .ready deviceId) : w.Alike n := by
  obtain ⟨h, hw, hpoint⟩ := hsettled.waits
  have hh := Server.handler_eq hw
  obtain ⟨hannounced, ⟨standing, hstands, hheard⟩, -⟩ :=
    (hagrees.sockets n).agreed hsettled.registered hsettled.intact
  obtain ⟨entry, hentry, hidentity, hcapabilities⟩ : ∃ entry,
      w.server.provisional (.own n) = some entry ∧
        entry.identity = .of w.client.resolver.visibleState ∧
        entry.capabilities = [provisionalPowerCapability] := by
    have htold := hannounced.told hsettled.posted
    rw [hsettled.up, hh] at htold
    cases htold with
    | underWay before facts after hup _ => simp at hup
    | known hknown _ =>
      -- the handler waits for a message, so it has not turned the socket away
      have hwaits : ¬h.point.IsOver := by rw [hpoint]; exact id
      cases hvisible : w.client.resolver.visibleState with
      | ready deviceId => exact absurd hvisible (hunknown deviceId)
      | resolving =>
        rw [hvisible] at hknown
        exact hknown.resolve_left hwaits
      | unavailable status diagnostic mintAttempted =>
        rw [hvisible] at hknown
        exact hknown.resolve_left hwaits
  obtain ⟨h₀, hh₀, hdevice, -⟩ := hagrees.sound.entry _ entry hentry
  obtain rfl := Option.some.inj (hw.symm.trans hh₀)
  have hready : entry.registrationReady = true := by
    rcases (hagrees.sound.atPoint hw hpoint).1 hdevice with ⟨-, hnone⟩ | ⟨entry', hentry', hready⟩
    · exact absurd (hnone.symm.trans hentry) (by simp)
    · rwa [Option.some.inj (hentry.symm.trans hentry')]
  have hstanding := hheard.readyProvisional entry hentry hready
  rw [hsettled.inbound] at hstanding
  obtain rfl : standing = .provisional entry.connectionId := hstanding
  refine .connection entry hentry hunknown hidentity hready hstands fun type hpower => ?_
  simp [Server.permits, hentry, Provisional.allows, hready, hpower, hcapabilities]

/-- **When nothing is under way, the two sides know the same.** -/
theorem registration_settles (h : Timely build resolved preferences events) {n : Nat}
    (hsettled : (after build resolved preferences events).Settled n) :
    (after build resolved preferences events).Alike n := by
  have hagrees := (invariant_after h).2
  by_cases hready : ∃ deviceId,
      (after build resolved preferences events).client.resolver.visibleState = .ready deviceId
  · obtain ⟨deviceId, hready⟩ := hready
    exact hagrees.alike_of_ready hsettled hready
  · exact hagrees.alike_of_not_ready hsettled (not_exists.mp hready)

/-- Nothing is under way after the promotion. -/
private theorem promoted_settled :
    (after anyUrl [] manualMode (rebooted ++ promoted)).Settled 0 where
  registered := by decide +kernel
  intact := by decide +kernel
  posted := by decide +kernel
  up := rfl
  inbound := by decide +kernel
  waits := ⟨_, rfl, by decide +kernel⟩

/-- So both sides agree. -/
theorem registration_settles_promoted :
    (after anyUrl [] manualMode (rebooted ++ promoted)).Alike 0 :=
  registration_settles promoted_timely promoted_settled

end World

end StylyMdm.Handshake
