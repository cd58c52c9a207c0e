import StylyMdm.Handshake.Downstream

/-!
# What the server is told

The frames of a client on their way to a handler: what they say of its identity is true when they
arrive (`Upstream`), and the last `REGISTER` says the latest (`Told`). The client has its
registration marked as sent exactly when the server has its identity, or will have it (`Announced`).

That a frame is true when it arrives, and not only when it is sent, is because the identity of a
device never changes once it is ready. A provisional registration that is still under way when the
identity becomes ready is followed by another one, on the same socket, which the server takes as a
promotion. `Informed` is what the handler has read so far.
-/

namespace StylyMdm.Handshake

open Text Py Registry Client.Identity

/-- A frame that a client with the identity `v` may have sent to the handler. -/
def Genuine (v : DeviceIdentityState) (h : Handler) (frame : Up) : Prop :=
  match frame with
  | .register data capabilities =>
    ∃ facts state, registration facts state = .register data capabilities ∧
      ∀ deviceId, state = .ready deviceId → v = .ready deviceId
  | .result result => ∀ target, result.answers = some target →
    h.Serves target ∧ result.connectionId = target.connectionId.map Value.str ∧
      result.type.command.isSome = true
  | .other => True

/-- A registration says what the resolver has shown. -/
theorem genuine_registration {v : DeviceIdentityState} (h : Handler) (facts : Facts)
    {state : DeviceIdentityState}
      (hstate : ∀ deviceId, state = .ready deviceId → v = .ready deviceId) :
    Genuine v h (registration facts state) := by
  cases state with
  | ready deviceId => exact ⟨facts, _, rfl, hstate⟩
  | resolving => exact ⟨facts, _, rfl, hstate⟩
  | unavailable status diagnostic mintAttempted => exact ⟨facts, _, rfl, hstate⟩

/-! ### What is under way -/

/-- What holds of the frames under way to the handler `h`, for a client with the identity `v`. -/
structure Upstream (v : DeviceIdentityState) (h : Handler) (up : List Up) : Prop where
  genuine : ∀ frame ∈ up, Genuine v h frame
  ordered : up.Pairwise fun frame later => frame.isFinal = true → later.isRegister = false
  registered : h.deviceId ≠ none → ∀ frame ∈ up, frame.isRegister = false
  device : ∀ deviceId, h.deviceId = some deviceId →
    v = .ready deviceId ∧ h.identityKind = some .canonical

namespace Upstream

variable {v v' : DeviceIdentityState} {h h' : Handler} {up up' : List Up} {frame : Up}

/-- Some frames have arrived, or got lost. -/
theorem sublist (hup : Upstream v h up) (hsub : up'.Sublist up) : Upstream v h up' :=
  ⟨fun frame hframe => hup.genuine frame (hsub.subset hframe), hup.ordered.sublist hsub,
    fun hdevice frame hframe => hup.registered hdevice frame (hsub.subset hframe), hup.device⟩

/-- The client may have found its identity. -/
theorem resolve (hup : Upstream v h up)
    (hv : ∀ deviceId, v = .ready deviceId → v' = .ready deviceId) : Upstream v' h up where
  genuine frame hframe := by
    have hgenuine := hup.genuine frame hframe
    cases frame with
    | register data capabilities =>
      obtain ⟨facts, state, heq, hstate⟩ := hgenuine
      exact ⟨facts, state, heq, fun deviceId hready => hv deviceId (hstate deviceId hready)⟩
    | result result => exact hgenuine
    | other => trivial
  ordered := hup.ordered
  registered := hup.registered
  device deviceId hdevice := (hup.device deviceId hdevice).imp_left (hv deviceId)

/-- The handler goes on. -/
theorem handler (hup : Upstream v h up) (hext : h.Extends h')
    (hdevice : ∀ deviceId, h'.deviceId = some deviceId → h.deviceId = some deviceId) :
    Upstream v h' up where
  genuine frame hframe := by
    have hgenuine := hup.genuine frame hframe
    cases frame with
    | register data capabilities => exact hgenuine
    | result result =>
      exact fun target htarget => (hgenuine target htarget).imp_left hext.serves
    | other => trivial
  ordered := hup.ordered
  registered hsome := hup.registered fun hnone => by
    obtain ⟨deviceId, heq⟩ := Option.ne_none_iff_exists'.mp hsome
    exact Option.some_ne_none deviceId ((hdevice deviceId heq).symm.trans hnone)
  device deviceId heq := by
    obtain ⟨hv, hkind⟩ := hup.device deviceId (hdevice deviceId heq)
    exact ⟨hv, (hext.deviceId deviceId (hdevice deviceId heq)).2.trans hkind⟩

/-- The client sends a frame. -/
theorem send (hup : Upstream v h up) (hgenuine : Genuine v h frame)
    (hregister : frame.isRegister = true → h.deviceId = none ∧ up.any Up.isFinal = false) :
    Upstream v h (up ++ [frame]) where
  genuine later hlater := by
    rcases List.mem_append.mp hlater with hbefore | hnew
    · exact hup.genuine later hbefore
    · rw [List.mem_singleton.mp hnew]
      exact hgenuine
  ordered := by
    refine List.pairwise_append.mpr ⟨hup.ordered, List.pairwise_singleton _ _, ?_⟩
    intro first hfirst later hlater hfinal
    rw [List.mem_singleton.mp hlater]
    by_contra hnot
    have hnone := List.any_eq_false.mp (hregister (Bool.not_eq_false _ ▸ hnot)).2 first hfirst
    exact hnone hfinal
  registered hdevice later hlater := by
    rcases List.mem_append.mp hlater with hbefore | hnew
    · exact hup.registered hdevice later hbefore
    · rw [List.mem_singleton.mp hnew]
      by_contra hnot
      exact hdevice (hregister (Bool.not_eq_false _ ▸ hnot)).1
  device := hup.device

/-- The handler becomes a device by the `REGISTER` that has arrived. -/
theorem promote {facts : Facts} {deviceId : DeviceId} {state : DeviceIdentityState}
    (hup : Upstream v h (registration facts state :: up)) (hready : state = .ready deviceId)
    (hext : h.Extends h') (hdevice : h'.deviceId = some deviceId)
    (hkind : h'.identityKind = some .canonical) : Upstream v h' up := by
  subst hready
  obtain ⟨hfinal, hordered⟩ := List.pairwise_cons.mp hup.ordered
  have hnone : ∀ frame ∈ up, frame.isRegister = false := fun frame hframe =>
    hfinal frame hframe (isFinal_registration.mpr ⟨deviceId, rfl⟩)
  refine ⟨fun frame hframe => ?_, hordered, fun _ => hnone, fun deviceId' heq => ?_⟩
  · have hgenuine := hup.genuine frame (List.mem_cons_of_mem _ hframe)
    cases frame with
    | register data capabilities => exact hgenuine
    | result result =>
      exact fun target htarget => (hgenuine target htarget).imp_left hext.serves
    | other => trivial
  · obtain rfl := Option.some.inj (hdevice.symm.trans heq)
    obtain ⟨facts', state', heq', hstate'⟩ := hup.genuine _ List.mem_cons_self
    refine ⟨hstate' deviceId ?_, hkind⟩
    cases state' with
    | ready deviceId' =>
      exact congrArg _ (Value.str.inj (congrArg RegisterData.deviceId (Up.register.inj heq').1))
    | resolving => cases heq'
    | unavailable status diagnostic mintAttempted => cases heq'

end Upstream

/-! ### The latest -/

/-- The last `REGISTER` under way says `v`, or there is none and the server knows. -/
inductive Told (v : DeviceIdentityState) (known : Prop) (up : List Up) : Prop
  | known (hknown : known) (hup : ∀ frame ∈ up, frame.isRegister = false)
  | underWay (before : List Up) (facts : Facts) (after : List Up)
    (hup : up = before ++ registration facts v :: after)
    (hafter : ∀ frame ∈ after, frame.isRegister = false)

namespace Told

variable {v : DeviceIdentityState} {known known' : Prop} {up : List Up} {frame : Up}

/-- What is told stays told when more is known. -/
theorem mono (h : Told v known up) (himp : known → known') : Told v known' up := by
  cases h with
  | known hknown hup => exact .known (himp hknown) hup
  | underWay before facts after hup hafter => exact .underWay before facts after hup hafter

/-- The client sends something else. -/
theorem append (h : Told v known up) (hframe : frame.isRegister = false) :
    Told v known (up ++ [frame]) := by
  have hmem : ∀ frames : List Up, (∀ later ∈ frames, later.isRegister = false) →
      ∀ later ∈ frames ++ [frame], later.isRegister = false := by
    intro frames hframes later hlater
    rcases List.mem_append.mp hlater with hold | hnew
    · exact hframes later hold
    · rw [List.mem_singleton.mp hnew]
      exact hframe
  cases h with
  | known hknown hup => exact .known hknown (hmem up hup)
  | underWay before facts after hup hafter =>
    refine .underWay before facts (after ++ [frame]) ?_ (hmem after hafter)
    rw [hup, List.append_assoc]
    rfl

/-- The client sends the latest. -/
theorem send (facts : Facts) : Told v known (up ++ [registration facts v]) :=
  .underWay up facts [] rfl (by simp)

/-- The first frame arrives. If it is the latest, then the server must know. -/
theorem tail (h : Told v known (frame :: up)) (hframe : frame.isRegister = false → known → known')
    (hlatest : ∀ facts, frame = registration facts v → known') : Told v known' up := by
  cases h with
  | known hknown hup =>
    exact .known (hframe (hup frame List.mem_cons_self) hknown)
      fun later hlater => hup later (List.mem_cons_of_mem frame hlater)
  | underWay before facts after hup hafter =>
    cases before with
    | nil =>
      obtain ⟨rfl, rfl⟩ := List.cons_eq_cons.mp hup
      exact .known (hlatest facts rfl) hafter
    | cons first before =>
      obtain ⟨rfl, rfl⟩ := List.cons_eq_cons.mp hup
      exact .underWay before facts after rfl hafter

end Told

/-- The server has the identity of the client, or has turned away its socket before it came. -/
def Informed (v : DeviceIdentityState) (s : Server) (ws : Socket) (h : Handler) : Prop :=
  match v with
  | .ready deviceId => h.deviceId = some deviceId
  | v => h.point.IsOver ∨ ∃ entry, s.provisional ws = some entry ∧ entry.identity = .of v ∧
    entry.capabilities = [provisionalPowerCapability]

/-- A handler stays informed while its device and its entry do not change. -/
theorem Informed.mono {v : DeviceIdentityState} {s s' : Server} {ws : Socket} {h h' : Handler}
    (hinformed : Informed v s ws h) (hdevice : h'.deviceId = h.deviceId)
    (hover : h.point.IsOver → h'.point.IsOver)
    (hentry : ∀ entry, s.provisional ws = some entry → h'.point.IsOver ∨
      ∃ entry', s'.provisional ws = some entry' ∧ entry'.identity = entry.identity ∧
        entry'.capabilities = entry.capabilities) : Informed v s' ws h' := by
  have hgiven : ∀ identity, (h.point.IsOver ∨ ∃ entry, s.provisional ws = some entry ∧
      entry.identity = identity ∧ entry.capabilities = [provisionalPowerCapability]) →
      h'.point.IsOver ∨ ∃ entry, s'.provisional ws = some entry ∧ entry.identity = identity ∧
        entry.capabilities = [provisionalPowerCapability] := by
    rintro identity (hbefore | ⟨entry, heq, hidentity, hcapabilities⟩)
    · exact .inl (hover hbefore)
    · refine (hentry entry heq).imp_right fun ⟨entry', heq', hidentity', hcapabilities'⟩ => ?_
      exact ⟨entry', heq', hidentity'.trans hidentity, hcapabilities'.trans hcapabilities⟩
  cases v with
  | ready deviceId => exact hdevice.trans hinformed
  | resolving => exact hgiven _ hinformed
  | unavailable status diagnostic mintAttempted => exact hgiven _ hinformed

/-- The client has told the server of its identity, unless something is still posted. -/
structure Announced (v : DeviceIdentityState) (posted : List DeviceIdentityState) (sent : Bool)
    (s : Server) (ws : Socket) (h : Handler) (up : List Up) : Prop where
  sent : sent = true ↔ h.deviceId ≠ none ∨ up.any Up.isFinal = true
  told : posted = [] → Told v (Informed v s ws h) up

namespace Announced

variable {v v' : DeviceIdentityState} {posted posted' : List DeviceIdentityState} {sent : Bool}
  {s s' : Server} {ws ws' : Socket} {h h' : Handler} {up : List Up} {frame : Up}

/-- A client that has sent its registration has told the server. -/
theorem told_of_sent (ha : Announced v posted true s ws h up) (hup : Upstream v h up) :
    Told v (Informed v s ws h) up := by
  rcases ha.sent.mp rfl with hdevice | hany
  · obtain ⟨deviceId, heq⟩ := Option.ne_none_iff_exists'.mp hdevice
    refine .known ?_ (hup.registered hdevice)
    rw [(hup.device deviceId heq).1]
    exact heq
  · obtain ⟨frame, hframe, hfinal⟩ := List.any_eq_true.mp hany
    obtain ⟨before, after, rfl⟩ := List.append_of_mem hframe
    have hafter := (List.pairwise_cons.mp (List.pairwise_append.mp hup.ordered).2.1).1
    have hgenuine := hup.genuine frame hframe
    cases frame with
    | register data capabilities =>
      obtain ⟨facts, state, heq, hstate⟩ := hgenuine
      rw [← heq] at hfinal hafter ⊢
      obtain ⟨deviceId, rfl⟩ := isFinal_registration.mp hfinal
      rw [hstate deviceId rfl]
      exact .underWay before facts after rfl fun later hlater => hafter later hlater hfinal
    | result result => cases hfinal
    | other => cases hfinal

/-- The client sends its registration, of what it has posted first. -/
theorem register (ha : Announced v posted false s ws h up) (facts : Facts)
    {identity : DeviceIdentityState} (hlast : posted' = [] → identity = v) :
    Announced v posted' (registration facts identity).isFinal s ws h
      (up ++ [registration facts identity]) where
  sent := by
    obtain ⟨hdevice, hfinal⟩ := not_or.mp fun hor => Bool.false_ne_true (ha.sent.mpr hor)
    rw [List.any_append, Bool.eq_false_iff.mpr hfinal, Bool.false_or, List.any_cons, List.any_nil,
      Bool.or_false]
    exact (or_iff_right hdevice).symm
  told hnil := by
    rw [hlast hnil]
    exact .send facts

/-- The client sends something else. -/
theorem send (ha : Announced v posted sent s ws h up) (hframe : frame.isRegister = false) :
    Announced v posted sent s ws h (up ++ [frame]) where
  sent := by
    have hfinal : frame.isFinal = false := by
      by_contra hnot
      have hregister := Up.isRegister_of_isFinal (Bool.not_eq_false _ ▸ hnot)
      exact Bool.false_ne_true (hframe.symm.trans hregister)
    rw [List.any_append, List.any_cons, List.any_nil, hfinal, Bool.or_false, Bool.or_false]
    exact ha.sent
  told hnil := (ha.told hnil).append hframe

/-- The handler goes on, with the same device. -/
theorem handler (ha : Announced v posted sent s ws h up) (hdevice : h'.deviceId = h.deviceId)
    (hinformed : Informed v s ws h → Informed v s' ws h') :
    Announced v posted sent s' ws h' up where
  sent := by
    rw [hdevice]
    exact ha.sent
  told hnil := (ha.told hnil).mono hinformed

end Announced

end StylyMdm.Handshake
