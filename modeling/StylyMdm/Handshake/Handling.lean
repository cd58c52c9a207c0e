import StylyMdm.Handshake.Sockets

/-!
# The handlers and the client

What a handler does to the socket of the client that it is for: a `REGISTER` is taken for what the
client is, so the handler never becomes a device but the client's own, and it never turns the client
away.

There are two registrations to read, that of a client with an identity and that of one without, and
for each of them the handler is new, provisional, or has the device already. What it answers in each
case fits what the client has announced, so `Socketed` is kept by the handlers: by their moves, by
the messages they take, by the frames they write, and by a restart, after which there are none.
-/

namespace StylyMdm.Handshake

open Text Py Registry Client.Identity Client.Connection

namespace Server

variable {s : Server} {ws : Socket} {h : Handler} {data : RegisterData} {capabilities : Value}
  {connectionId : Str} {saved verifying : Bool}

/-- A provisional claim of a socket without a device is registered provisionally. -/
theorem register_of_provisional (hclaim : claim data h.remote = .provisional)
    (hdevice : h.deviceId = none) :
    s.register ws h data capabilities connectionId saved verifying =
      s.registerProvisional ws h (readProvisional data.identity) (parseCapabilities capabilities)
        connectionId := by
  rw [register, hclaim]
  dsimp only
  rw [hdevice]

/-- A canonical claim of a socket without a device promotes it. -/
theorem register_of_canonical {deviceId : DeviceId}
    (hclaim : claim data h.remote = .device .canonical deviceId) (hdevice : h.deviceId = none) :
    s.register ws h data capabilities connectionId saved verifying =
      s.promote ws h .canonical deviceId saved verifying := by
  rw [register, hclaim]
  dsimp only
  rw [hdevice]
  exact if_neg fun hand => hand.2 rfl

/-! ### Other changes -/

/-- A socket is accepted. -/
theorem Sound.connect (hs : s.Sound) (hnone : s.handlers ws = none) (remote : Option Str) :
    (s.setHandler ws { remote := remote }).Sound := by
  have hne : ∀ {ws'} {h : Handler}, s.handlers ws' = some h → ws' ≠ ws := by
    rintro ws' h hw' rfl
    exact absurd (hnone.symm.trans hw') (by simp)
  have hold : ∀ {ws'} {h : Handler}, s.handlers ws' = some h →
      (s.setHandler ws { remote := remote }).handlers ws' = some h := fun hw' =>
    (setHandler_handlers ..).trans ((if_neg (hne hw')).trans hw')
  have hfresh : ∀ entry, s.provisional ws ≠ some entry := by
    intro entry heq
    obtain ⟨h, hh, -⟩ := hs.entry ws entry heq
    exact absurd (hnone.symm.trans hh) (by simp)
  refine ⟨fun deviceId entry heq => ?_, fun deviceId ws' heq => ?_, fun ws' entry heq => ?_,
    fun ws' h₀ deviceId hh₀ hpush => ?_, fun ws' h₀ hh₀ => ?_⟩
  · obtain ⟨h, hh, hrest⟩ := hs.owner deviceId entry heq
    exact ⟨h, hold hh, hrest⟩
  · obtain ⟨h, hh, hdevice⟩ := hs.session deviceId ws' heq
    exact ⟨h, hold hh, hdevice⟩
  · obtain ⟨h, hh, hrest⟩ := hs.entry ws' entry heq
    exact ⟨h, hold hh, hrest⟩
  · rw [setHandler_handlers] at hh₀
    split_ifs at hh₀ with hws
    · obtain rfl := Option.some.inj hh₀
      cases hpush
    · exact hs.push ws' h₀ deviceId hh₀ hpush
  · rw [setHandler_handlers] at hh₀
    split_ifs at hh₀ with hws
    · obtain rfl := Option.some.inj hh₀
      refine ⟨fun _ => .inl ⟨rfl, ?_⟩, fun deviceId heq => by cases heq⟩
      rw [hws]
      exact Option.eq_none_iff_forall_not_mem.mpr hfresh
    · exact at_handlers.mpr (hs.point ws' h₀ hh₀)

/-- What waits to be written is in no book. -/
theorem Sound.withSending (hs : s.Sound) (sending : List Sending) :
    { s with sending := sending }.Sound :=
  ⟨hs.owner, hs.session, hs.entry, hs.push, fun ws h hw => at_handlers.mpr (hs.point ws h hw)⟩

/-- The process starts anew. -/
theorem Sound.restarted (hs : s.Sound) : s.restarted.Sound := by
  have hclosed : ∀ {ws h}, s.restarted.handlers ws = some h →
      ∃ h₀, s.handlers ws = some h₀ ∧ h = { h₀ with point := .closed } := by
    intro ws h hh
    obtain ⟨h₀, hh₀, rfl⟩ := Option.map_eq_some_iff.mp hh
    exact ⟨h₀, hh₀, rfl⟩
  refine ⟨fun _ _ heq => (by cases heq), fun _ _ heq => (by cases heq),
    fun _ _ heq => (by cases heq),
    fun ws h deviceId hh hpush => ?_, fun ws h hh => ?_⟩
  · obtain ⟨h₀, hh₀, rfl⟩ := hclosed hh
    exact hs.push ws h₀ deviceId hh₀ hpush
  · obtain ⟨h₀, -, rfl⟩ := hclosed hh
    trivial

/-- A restart ends a handler, and leaves its local variables. -/
theorem handler_restarted (s : Server) (ws : Socket) :
    ∃ point, s.restarted.handler ws = { s.handler ws with point := point } := by
  have hhandlers : s.restarted.handlers ws =
      (s.handlers ws).map fun h => { h with point := .closed } := rfl
  rw [handler, handler, hhandlers]
  cases s.handlers ws with
  | none => exact ⟨.receive, rfl⟩
  | some h => exact ⟨.closed, rfl⟩

end Server

namespace Socketed

variable {Network : Type*} {c : Client Network} {s s' : Server} {n : Nat} {link : Link}
  {h h' : Handler} {frame : Option Down}

/-- A move of the handler, after which `up` is under way to it. -/
theorem effect (hsocket : Socketed c s n link) (hw : s.handlers (.own n) = some h)
    (heffect : s.Effect (.own n) h s' h' frame) (up : List Up)
    (hup : Upstream c.resolver.visibleState h' up)
    (hfresh : link.opened = false → Fresh h' up)
    (hannounced : c.registration.socket = some n → link.lost = false →
      Announced c.resolver.visibleState c.posted c.registration.sent s' (.own n) h' up) :
    Socketed c s' n (frame.elim { link with up := up } { link with up := up }.sendDown) := by
  have hh : s.handler (.own n) = h := Server.handler_eq hw
  have hw' := heffect.handlers_self
  have hh' : s'.handler (.own n) = h' := Server.handler_eq hw'
  have hlink : (frame.elim { link with up := up } { link with up := up }.sendDown) =
      { link with
        up := up
        down := if link.lost then link.down else link.down ++ frame.toList } := by
    cases frame with
    | none => rw [Option.elim_none, Option.toList_none, List.append_nil, ite_self]
    | some frame =>
      rw [Option.elim_some, Link.sendDown]
      split_ifs <;> rfl
  have hwritten : ∀ written, frame = some written → h'.Wrote written := by
    intro written hframe
    cases written with
    | registered => exact heffect.registered hframe
    | registeredProvisional connectionId => exact heffect.registeredProvisional _ hframe
    | error => trivial
    | command command => exact absurd hframe (heffect.command command)
  have hread : ∀ written ∈ link.inbound, h'.Wrote written := fun written hinbound =>
    heffect.grows.wrote (hh ▸ hsocket.wrote written hinbound)
  -- the frame goes behind what is under way, so the client hears it last
  rw [hlink]
  refine ⟨hsocket.opened, hsocket.current, fun _ => Option.isSome_iff_exists.mpr ⟨h', hw'⟩,
    fun _ => hsocket.asked (Option.isSome_iff_exists.mpr ⟨h, hw⟩), fun hopened => ?_, ?_,
    fun written hinbound => ?_, fun hn hintact => ?_⟩
  · rw [hh']
    exact hfresh hopened
  · rw [hh']
    exact hup
  · rw [hh']
    rcases List.mem_append.mp hinbound with hreader | hdown
    · exact hread written (List.mem_append_left _ hreader)
    · dsimp only at hdown
      split_ifs at hdown
      · exact hread written (List.mem_append_right _ hdown)
      · rcases List.mem_append.mp hdown with hold | hnew
        · exact hread written (List.mem_append_right _ hold)
        · exact hwritten written (Option.mem_toList.mp hnew)
  · obtain ⟨-, ⟨standing, hstands, hheard⟩, hmatching⟩ := hsocket.agreed hn hintact
    rw [hh] at hheard
    refine ⟨?_, ⟨standing, hstands, ?_⟩, hmatching⟩
    · rw [hh']
      exact hannounced hn hintact
    · rw [hh', Link.inbound]
      dsimp only
      rw [if_neg (by rw [show link.lost = false from hintact]; decide), ← List.append_assoc]
      exact hheard.effect heffect (hh ▸ hsocket.wrote)

/-- A move that leaves the frames under way. -/
theorem move (hsocket : Socketed c s n link) (hs : s.Sound) (hw : s.handlers (.own n) = some h)
    (hmove : s.Move (.own n) h s' frame) :
    ∃ h', s.Effect (.own n) h s' h' frame ∧
      Socketed c s' n (frame.elim link link.sendDown) := by
  obtain ⟨point, heffect, hkept⟩ := hmove.effect hs hw
  have hh : s.handler (.own n) = h := Server.handler_eq hw
  refine ⟨_, heffect, hsocket.effect hw heffect link.up
    ((hh ▸ hsocket.upstream).handler heffect.grows fun _ => id) (fun hopened => ?_)
    fun hn hintact => ?_⟩
  · obtain ⟨hup, hdevice, hissued⟩ := hh ▸ hsocket.fresh hopened
    exact ⟨hup, hdevice, hissued⟩
  · have hannounced := hh ▸ (hsocket.agreed hn hintact).announced
    exact hannounced.handler rfl fun hinformed => hinformed.mono rfl hkept.ended hkept.entry

/-- A frame that is no registration has arrived. -/
theorem pop {first : Up} {up : List Up} (hsocket : Socketed c s n link)
    (hup : link.up = first :: up)
    (hfirst : first.isRegister = false) : Socketed c s n { link with up := up } := by
  have htail : up.Sublist link.up := hup ▸ List.sublist_cons_self first up
  refine ⟨hsocket.opened, hsocket.current, hsocket.accepted, hsocket.asked, fun hopened => ?_,
    hsocket.upstream.sublist htail, hsocket.wrote, fun hn hintact => ?_⟩
  · obtain ⟨hnone, hdevice, hissued⟩ := hsocket.fresh hopened
    exact ⟨fun frame hframe => hnone frame (htail.subset hframe), hdevice, hissued⟩
  · obtain ⟨⟨hsent, htold⟩, hheard, hmatching⟩ := hsocket.agreed hn hintact
    rw [hup] at hsent htold
    have hfinal : first.isFinal = false := by
      by_contra hnot
      have hregister := Up.isRegister_of_isFinal (Bool.not_eq_false _ ▸ hnot)
      exact Bool.false_ne_true (hfirst.symm.trans hregister)
    rw [List.any_cons, hfinal, Bool.false_or] at hsent
    refine ⟨⟨hsent, fun hnil => (htold hnil).tail (fun _ => id) fun facts hlatest => ?_⟩, hheard,
      hmatching⟩
    rw [hlatest, isRegister_registration] at hfirst
    cases hfirst

/-- **A registration arrives.** The handler takes the client for what it is. -/
theorem register {data : RegisterData} {capabilities : Value} {up : List Up} {connectionId : Str}
    (hsocket : Socketed c s n link) (hc : c.Aligned) (hs : s.Sound)
    (hw : s.handlers (.own n) = some h) (hfrom : h.point = .receive)
    (hhex : World.isHex connectionId = true)
    (hup : link.up = .register data capabilities :: up) (saved verifying : Bool) :
    ∃ h', s.Effect (.own n) h
        (s.register (.own n) h data capabilities connectionId saved verifying) h' none ∧
      Socketed c (s.register (.own n) h data capabilities connectionId saved verifying) n
        { link with up := up } := by
  have hh : s.handler (.own n) = h := Server.handler_eq hw
  have hupstream := hh ▸ hsocket.upstream
  rw [hup] at hupstream
  have hfirst : Up.register data capabilities ∈ Up.register data capabilities :: up :=
    List.mem_cons_self
  -- the client sends no registration to a handler that has its device
  have hdevice : h.deviceId = none := by
    by_contra hsome
    exact absurd (hupstream.registered hsome _ hfirst).symm Bool.false_ne_true
  have hfresh : ∀ h', link.opened = false → Fresh h' up := by
    intro h' hopened
    have hnone := (hsocket.fresh hopened).up
    rw [hup] at hnone
    exact absurd (hnone _ hfirst).symm Bool.false_ne_true
  obtain ⟨facts, state, hframe, hstate⟩ := hupstream.genuine _ hfirst
  by_cases hready : ∃ deviceId, state = .ready deviceId
  · obtain ⟨deviceId, rfl⟩ := hready
    have hv := hstate deviceId rfl
    have hcanonical := hc.singleFlight.visible
    rw [hv] at hcanonical
    rw [Server.register_of_canonical (claim_of_ready hcanonical hframe) hdevice]
    obtain ⟨h', heffect, hdevice', hkind'⟩ :=
      hs.effect_promote hw hdevice .canonical deviceId saved verifying
    refine ⟨h', heffect, hsocket.effect hw heffect up ?_ (hfresh h') fun hn hintact => ?_⟩
    · rw [← hframe] at hupstream
      exact hupstream.promote rfl heffect.grows hdevice' hkind'
    · obtain ⟨hsent, htold⟩ := (hsocket.agreed hn hintact).announced
      rw [hup] at hsent htold
      have hfinal : (Up.register data capabilities).isFinal = true :=
        hframe ▸ isFinal_registration.mpr ⟨deviceId, rfl⟩
      refine ⟨iff_of_true (hsent.mpr (.inr (by rw [List.any_cons, hfinal, Bool.true_or])))
        (.inl (by rw [hdevice']; simp)), fun hnil => (htold hnil).tail (fun hfalse => ?_)
          fun _ _ => by rw [hv]; exact hdevice'⟩
      cases hfalse
  · have hnone : ∀ deviceId, state ≠ .ready deviceId := not_exists.mp hready
    rw [Server.register_of_provisional (claim_of_provisional _ hnone hframe).1 hdevice]
    obtain ⟨h', heffect, hdevice', entry, hentry, hidentity, hcapabilities⟩ :=
      hs.effect_registerProvisional hw hfrom hdevice hhex (readProvisional data.identity)
        (parseCapabilities capabilities)
    refine ⟨h', heffect, hsocket.effect hw heffect up ?_ (hfresh h') fun hn hintact => ?_⟩
    · refine (hupstream.sublist (List.sublist_cons_self _ up)).handler heffect.grows fun _ heq => ?_
      exact absurd (hdevice'.symm.trans heq) (by simp)
    · obtain ⟨hsent, htold⟩ := (hsocket.agreed hn hintact).announced
      rw [hup] at hsent htold
      have hfinal : (Up.register data capabilities).isFinal = false := by
        by_contra hnot
        exact hready (isFinal_registration.mp (hframe ▸ Bool.not_eq_false _ ▸ hnot))
      rw [hh, hdevice, List.any_cons, hfinal, Bool.false_or] at hsent
      refine ⟨by rwa [hdevice'], fun hnil => (htold hnil).tail (fun hfalse => by cases hfalse)
        fun facts' hlatest => ?_⟩
      -- the latest identity is this one
      have hv : ∀ deviceId, c.resolver.visibleState ≠ .ready deviceId := by
        intro deviceId heq
        rw [hlatest, heq, isFinal_registration.mpr ⟨deviceId, rfl⟩] at hfinal
        cases hfinal
      obtain ⟨-, hread, hparse⟩ := claim_of_provisional none hv hlatest.symm
      have hinformed : h'.point.IsOver ∨ ∃ entry, (s.registerProvisional (.own n) h
          (readProvisional data.identity) (parseCapabilities capabilities)
          connectionId).provisional (.own n) = some entry ∧
          entry.identity = .of c.resolver.visibleState ∧
          entry.capabilities = [provisionalPowerCapability] :=
        .inr ⟨entry, hentry, hidentity.trans hread, hcapabilities.trans hparse⟩
      cases hstate' : c.resolver.visibleState with
      | ready deviceId => exact absurd hstate' (hv deviceId)
      | resolving => rwa [hstate'] at hinformed
      | unavailable status diagnostic mintAttempted => rwa [hstate'] at hinformed

/-- A command is written to a socket that may have it. -/
theorem write {command : Command} (hsocket : Socketed c s n link)
    (haddressed : (s.handler (.own n)).Addressed command)
    (hpermits : s.permits (.own n) command = true) :
    Socketed c s n (link.sendDown (.command command)) := by
  rw [Link.sendDown]
  split_ifs with hlost
  · exact hsocket
  · refine ⟨hsocket.opened, hsocket.current, hsocket.accepted, hsocket.asked, hsocket.fresh,
      hsocket.upstream, fun frame hframe => ?_, fun hn hintact => ?_⟩
    · rw [Link.inbound, ← List.append_assoc] at hframe
      rcases List.mem_append.mp hframe with hold | hnew
      · exact hsocket.wrote frame hold
      · rw [List.mem_singleton.mp hnew]
        exact haddressed
    · obtain ⟨hannounced, ⟨standing, hstands, hheard⟩, hmatching⟩ := hsocket.agreed hn hintact
      refine ⟨hannounced, ⟨standing, hstands, ?_⟩, hmatching⟩
      rw [Link.inbound, ← List.append_assoc]
      exact hheard.write hpermits

/-- The server starts anew, and the sockets that it had accepted are lost. -/
theorem restart (hsocket : Socketed c s n link) :
    Socketed c s.restarted n
      (if (s.handlers (.own n)).isSome then { link with lost := true, up := [] } else link) := by
  obtain ⟨point, hhandler⟩ := s.handler_restarted (.own n)
  have hsome : (s.restarted.handlers (.own n)).isSome = (s.handlers (.own n)).isSome :=
    Option.isSome_map
  have hext : (s.handler (.own n)).Extends (s.restarted.handler (.own n)) :=
    hhandler ▸ .refl _ point
  have hupstream : Upstream c.resolver.visibleState (s.restarted.handler (.own n)) link.up :=
    hsocket.upstream.handler hext fun deviceId heq => by rwa [hhandler] at heq
  have hfresh : ∀ up : List Up, (∀ frame ∈ up, frame ∈ link.up) → link.opened = false →
      Fresh (s.restarted.handler (.own n)) up := by
    intro up hsub hopened
    obtain ⟨hup, hdevice, hissued⟩ := hsocket.fresh hopened
    rw [hhandler]
    exact ⟨fun frame hframe => hup frame (hsub frame hframe), hdevice, hissued⟩
  have hwrote : ∀ frame ∈ link.inbound, (s.restarted.handler (.own n)).Wrote frame :=
    fun frame hframe => hext.wrote (hsocket.wrote frame hframe)
  split_ifs with haccepted
  · exact ⟨hsocket.opened, hsocket.current, fun _ => hsome.trans haccepted,
      fun _ => hsocket.asked haccepted, hfresh [] fun _ hframe => (by cases hframe),
      hupstream.sublist (List.nil_sublist _), hwrote, fun _ hintact => (by cases hintact)⟩
  · exact ⟨hsocket.opened, hsocket.current, fun hopened => hsome.trans (hsocket.accepted hopened),
      fun hsome' => hsocket.asked (hsome ▸ hsome'), hfresh link.up fun _ => id, hupstream, hwrote,
      fun hn => absurd (hsocket.accepted (hsocket.opened hn)) haccepted⟩

end Socketed

end StylyMdm.Handshake
