import StylyMdm.Handshake.Agreement

/-!
# Runs of a client and the server

The invariant is kept by the steps of the server as well, so by every step (`Agrees.step`), as long
as no discovery thread of the client outlives all generations (`Young`).

A step of the server concerns one socket, of the client or of another device. What it does to the
sockets of the client is an `Effect`, so one lemma (`Agrees.effect`) has the argument and the others
say which effect it is. Sockets of other devices matter only in that they can take a device away,
when the admins' commands go to another socket from then on.

With `Agrees.step` the results on runs need no more inductions: `Handshake.Registration` reads them
off the invariant.
-/

namespace StylyMdm.Handshake

open Text Py Registry Client.Identity Client.Connection

namespace World

variable {Network : Type*} {w w' : World Network} {ws : Socket} {h h' : Handler}
  {frame : Option Down}

/-! ### Handlers -/

/-- A frame is delivered on the link of its socket. -/
theorem deliver_links (w : World Network) (ws : Socket) (frame : Option Down) (n : Nat) :
    (w.deliver ws frame).links n =
      if ws = .own n then frame.elim (w.links n) (w.links n).sendDown else w.links n := by
  cases ws with
  | other m => cases frame <;> rfl
  | own m =>
    cases frame with
    | none =>
      rw [Option.elim_none, ite_self]
      rfl
    | some frame =>
      rw [deliver, setLink_links, Option.elim_some]
      by_cases hn : n = m
      · rw [if_pos hn, if_pos (congrArg _ hn.symm), hn]
      · rw [if_neg hn, if_neg fun heq => hn (Socket.own.inj heq).symm]

/-- It is no change of the client. -/
@[simp] theorem deliver_client : (w.deliver ws frame).client = w.client := by
  cases ws <;> cases frame <;> rfl

/-- Nor of the server. -/
@[simp] theorem deliver_server : (w.deliver ws frame).server = w.server := by
  cases ws <;> cases frame <;> rfl

/-- Nor of the log. -/
@[simp] theorem deliver_log : (w.deliver ws frame).log = w.log := by
  cases ws <;> cases frame <;> rfl

/-- A frame does not open a link, nor restore one. -/
theorem elim_sendDown (link : Link) (frame : Option Down) :
    (frame.elim link link.sendDown).opened = link.opened ∧
      (frame.elim link link.sendDown).lost = link.lost := by
  cases frame with
  | none => exact ⟨rfl, rfl⟩
  | some frame =>
    rw [Option.elim_some, Link.sendDown]
    split_ifs <;> exact ⟨rfl, rfl⟩

/-- A move of the handler of `ws` that leaves the other sockets alone. -/
theorem Agrees.effect (hagrees : w.Agrees) (hw : w.server.handlers ws = some h)
    (heffect : w.server.Effect ws h w'.server h' frame) (hclient : w'.client = w.client)
    (hlinks : ∀ n, ws ≠ .own n → w'.links n = w.links n)
    (hkept : ∀ n, (w'.links n).opened = (w.links n).opened ∧ (w'.links n).lost = (w.links n).lost)
    (hsocket : ∀ n, ws = .own n → Socketed w.client w'.server n (w'.links n))
    (hlog : ∀ record ∈ w'.log, record ∈ w.log ∨ record.Holds w'.server) : w'.Agrees := by
  refine hagrees.grow ⟨heffect.extends hw, fun n hn => (hkept n).1.trans hn,
    fun n hn => (hkept n).2.symm.trans hn, fun n _ hn => hclient ▸ hn⟩ (hclient ▸ hagrees.aligned)
    heffect.sound (fun n => ?_) (fun thread hthread => .inl (hclient ▸ hthread))
    (fun sending hsend => .inl (heffect.sending ▸ hsend)) hlog
  rw [hclient]
  by_cases hws : ws = .own n
  · exact hsocket n hws
  · rw [hlinks n hws]
    exact (hagrees.sockets n).server (heffect.handlers_other (Ne.symm hws))
      (heffect.provisional _ (Ne.symm hws)) fun deviceId entry heq hentry =>
        heffect.devices deviceId entry heq (hentry ▸ Ne.symm hws)

/-- A handler moves and writes a frame. -/
theorem Agrees.move {s : Server} (hagrees : w.Agrees) (hw : w.server.handlers ws = some h)
    (hmove : w.server.Move ws h s frame) : ((w.withServer s).deliver ws frame).Agrees := by
  obtain ⟨point, heffect, -⟩ := hmove.effect hagrees.sound hw
  have hlinks := deliver_links (w.withServer s) ws frame
  refine hagrees.effect hw (by rwa [deliver_server])
    (by rw [deliver_client]; rfl) (fun n hws => ?_) (fun n => ?_) (fun n hws => ?_)
    fun record hrecord => .inl (by rwa [deliver_log] at hrecord)
  · rw [hlinks, if_neg hws]
    rfl
  · rw [hlinks]
    split_ifs
    · exact elim_sendDown _ _
    · exact ⟨rfl, rfl⟩
  · subst hws
    rw [hlinks, if_pos rfl, deliver_server]
    obtain ⟨-, -, hsocket⟩ := (hagrees.sockets n).move hagrees.sound hw hmove
    exact hsocket

/-- A handler goes on past its await. -/
theorem Agrees.resume (hagrees : w.Agrees) (ws : Socket) (failed verifying : Bool) :
    (w.resume ws failed verifying).Agrees := by
  rw [World.resume]
  cases hw : w.server.handlers ws with
  | none => exact hagrees
  | some h => exact hagrees.move hw (w.server.resume_move ws h failed verifying)

/-- A handler moves without a frame. -/
theorem Agrees.moveSilently {s : Server} (hagrees : w.Agrees) (hw : w.server.handlers ws = some h)
    (hmove : w.server.Move ws h s none) : (w.withServer s).Agrees := by
  have hmoved := hagrees.move hw hmove
  have hsame : (w.withServer s).deliver ws none = w.withServer s := by
    cases ws <;> rfl
  rwa [hsame] at hmoved

/-- The receive loop of a handler ends. -/
theorem Agrees.close (hagrees : w.Agrees) (ws : Socket) (graceful verifying : Bool) :
    (w.close ws graceful verifying).Agrees := by
  rw [World.close]
  cases hw : w.server.handlers ws with
  | none => exact hagrees
  | some h =>
    dsimp only
    split_ifs with hpoint
    · exact hagrees
    · exact hagrees.moveSilently hw (.stop (not_not.mp hpoint) (.inr rfl))
    · exact hagrees.moveSilently hw (.leave (Server.leave_leave _ ws h verifying true))

/-- A socket reaches the server. -/
theorem Agrees.connect (hagrees : w.Agrees) (ws : Socket) (remote : Option Str) :
    (w.connect ws remote).Agrees := by
  rw [World.connect]
  split_ifs with hnew
  · rw [Bool.and_eq_true, Option.isNone_iff_eq_none] at hnew
    obtain ⟨hexist, hnone⟩ := hnew
    have hhandler : ∀ ws', (w.server.handler ws').Extends
        ((w.server.setHandler ws { remote := remote }).handler ws') := by
      intro ws'
      rw [Server.handler, Server.handler, Server.setHandler_handlers]
      split_ifs with hws
      · rw [hws, hnone]
        exact ⟨fun _ heq => (by cases heq), fun _ heq => (by cases heq)⟩
      · exact .refl _ _
    refine hagrees.grow ⟨hhandler, fun _ => id, fun _ => id, fun _ _ => id⟩ hagrees.aligned
      (hagrees.sound.connect hnone remote) (fun n => ?_) (fun _ => .inl)
        (fun _ => .inl) fun _ => .inl
    have hsocket := hagrees.sockets n
    by_cases hws : Socket.own n = ws
    · subst hws
      have hnew : (w.server.setHandler (.own n) { remote := remote }).handler (.own n) =
          { remote := remote } :=
        Server.handler_eq ((Server.setHandler_handlers ..).trans (if_pos rfl))
      -- the client has not opened a socket that the server had not accepted
      refine ⟨hsocket.opened, hsocket.current, fun _ => ?_, fun _ => ?_, fun hopened => ?_, ?_,
        fun frame hframe => (hhandler _).wrote (hsocket.wrote frame hframe), fun hn => ?_⟩
      · rw [withServer, Server.setHandler_handlers, if_pos rfl, Option.isSome_some]
      · exact of_decide_eq_true (Bool.and_eq_true_iff.mp hexist).1
      · rw [withServer, hnew]
        exact ⟨(hsocket.fresh hopened).up, rfl, rfl⟩
      · refine hsocket.upstream.handler (hhandler _) fun deviceId heq => ?_
        rw [withServer, hnew] at heq
        cases heq
      · have hsome := hsocket.accepted (hsocket.opened hn)
        rw [hnone] at hsome
        cases hsome
    · exact hsocket.server ((Server.setHandler_handlers ..).trans (if_neg hws)) rfl
        fun _ _ heq _ => heq
  · exact hagrees

/-! ### Messages -/

/-- Whose result it is that is forwarded. -/
theorem Agrees.sender (hagrees : w.Agrees) (hw : w.server.handlers ws = some h) {result : Result}
    {sender : Target} (hsender : w.server.sender ws h result = some sender) :
    h.Serves sender ∧ ∀ target, h.Serves target →
      result.connectionId = target.connectionId.map Value.str → result.type.command.isSome = true →
        target = sender := by
  rw [Server.sender] at hsender
  split at hsender
  · rename_i deviceId hdevice
    split_ifs at hsender with hstranger hsome
    obtain rfl := Option.some.inj hsender
    refine ⟨hdevice, fun target hserves hresult htype => ?_⟩
    cases target with
    | device deviceId' =>
      exact congrArg _ (Option.some.inj ((show h.deviceId = _ from hserves).symm.trans hdevice))
    | connection connectionId =>
      rw [htype, hresult] at hsome
      exact absurd rfl hsome
  · rename_i hdevice
    split_ifs at hsender
    obtain ⟨connectionId, hresult, rfl⟩ := Option.map_eq_some_iff.mp hsender
    rw [Server.provisionalResult] at hresult
    obtain ⟨entry, hentry, hpermitted⟩ := Option.bind_eq_some_iff.mp hresult
    split_ifs at hpermitted
    obtain rfl := Option.some.inj hpermitted
    obtain ⟨h₀, hh₀, -, -, hissued, -⟩ := hagrees.sound.entry ws entry hentry
    obtain rfl := Option.some.inj (hw.symm.trans hh₀)
    refine ⟨hissued, fun target hserves _ _ => ?_⟩
    cases target with
    | device deviceId => exact absurd (hdevice.symm.trans hserves) (by simp)
    | connection connectionId =>
      exact congrArg _ (Option.some.inj ((show h.issued = _ from hserves).symm.trans hissued))

/-- A socket of another device has nothing to do with the client. -/
theorem Agrees.stranger {s : Server} {n : Nat} (hagrees : w.Agrees)
    (hw : w.server.handlers (.other n) = some h)
    (heffect : w.server.Effect (.other n) h s h' frame) : (w.withServer s).Agrees :=
  hagrees.effect hw heffect rfl (fun _ _ => rfl) (fun _ => ⟨rfl, rfl⟩)
    (fun _ heq => (by cases heq)) fun _ => .inl

/-- A `REGISTER` is handled. -/
theorem Agrees.register (hagrees : w.Agrees) (hw : w.server.handlers ws = some h)
    (hfrom : h.point = .receive) {stray : Up} {data : RegisterData} {capabilities : Value}
    {connectionId : Str} (hhex : isHex connectionId = true)
    (hnext : w.nextMessage ws stray = some (.register data capabilities, w'))
    (saved verifying : Bool) :
    (w'.withServer (w'.server.register ws h data capabilities connectionId saved
      verifying)).Agrees := by
  cases ws with
  | own n =>
    rw [nextMessage] at hnext
    split at hnext
    · cases hnext
    · rename_i message up hup
      obtain ⟨rfl, rfl⟩ := Prod.mk.inj (Option.some.inj hnext)
      obtain ⟨h', heffect, hsocket⟩ := (hagrees.sockets n).register hagrees.aligned hagrees.sound hw
        hfrom hhex hup saved verifying
      refine hagrees.effect hw heffect rfl (fun m hm => ?_) (fun m => ?_)
        (fun m hm => ?_) fun _ => .inl
      · exact (setLink_links ..).trans (if_neg fun heq => hm (congrArg _ heq.symm))
      · show ((w.setLink n _).links m).opened = _ ∧ ((w.setLink n _).links m).lost = _
        rw [setLink_links]
        split_ifs with hmn
        · rw [hmn]
          exact ⟨rfl, rfl⟩
        · exact ⟨rfl, rfl⟩
      · obtain rfl := Socket.own.inj hm
        show Socketed _ _ _ ((w.setLink n _).links n)
        rw [setLink_links, if_pos rfl]
        exact hsocket
  | other n =>
    obtain ⟨rfl, rfl⟩ := Prod.mk.inj (Option.some.inj hnext)
    rcases w.server.register_cases (.other n) h hfrom with hmove | ⟨hdevice, -, heq⟩ |
      ⟨kind, deviceId, hdevice, -, -, heq⟩
    · exact hagrees.moveSilently hw hmove
    · rw [heq]
      obtain ⟨h', heffect, -⟩ := hagrees.sound.effect_registerProvisional hw hfrom hdevice hhex
        (readProvisional data.identity) (parseCapabilities capabilities)
      exact hagrees.stranger hw heffect
    · rw [heq]
      obtain ⟨h', heffect, -⟩ :=
        hagrees.sound.effect_promote hw hdevice kind deviceId saved verifying
      exact hagrees.stranger hw heffect

/-- A message that is no registration is taken from the socket. -/
theorem Agrees.next (hagrees : w.Agrees) {stray message : Up}
    (hnext : w.nextMessage ws stray = some (message, w')) (hmessage : message.isRegister = false) :
    w'.Agrees ∧ w'.server = w.server ∧
      ∀ n, ws = .own n → Genuine w.client.resolver.visibleState (w.server.handler ws) message := by
  cases ws with
  | own n =>
    rw [nextMessage] at hnext
    split at hnext
    · cases hnext
    · rename_i first up hup
      obtain ⟨rfl, rfl⟩ := Prod.mk.inj (Option.some.inj hnext)
      refine ⟨hagrees.setLink ((hagrees.sockets n).pop hup hmessage) id id, rfl, fun _ _ => ?_⟩
      exact (hagrees.sockets n).upstream.genuine first (hup ▸ List.mem_cons_self)
  | other n =>
    obtain ⟨rfl, rfl⟩ := Prod.mk.inj (Option.some.inj hnext)
    exact ⟨hagrees, rfl, fun _ heq => by cases heq⟩

/-- A message is handled. -/
theorem Agrees.receive (hagrees : w.Agrees) (ws : Socket) (stray : Up) (connectionId : Str)
    (saved verifying : Bool) : (w.receive ws stray connectionId saved verifying).Agrees := by
  rw [World.receive]
  cases hw : w.server.handlers ws with
  | none => exact hagrees
  | some h =>
    dsimp only
    split_ifs with hnot
    · exact hagrees
    · obtain ⟨hfrom, hhex⟩ := not_or.mp hnot
      rw [not_not] at hfrom
      rw [Bool.not_eq_false] at hhex
      split
      · exact hagrees
      · rename_i message w' hnext
        have hrest : w.server.Move ws h (w.server.park ws h .answering) none :=
          .rest (.inl hfrom) (.inr rfl)
        split
        · exact hagrees.register hw hfrom hhex hnext saved verifying
        · rename_i result
          obtain ⟨hagrees', hserver, hgenuine⟩ := hagrees.next hnext rfl
          rw [← hserver] at hw hrest
          split
          · rename_i sender hsender
            obtain ⟨hserves, hanswers⟩ := hagrees'.sender hw hsender
            refine (hagrees'.moveSilently hw hrest).record fun record hrecord => ?_
            obtain rfl := Option.some.inj hrecord
            have hpark : (w'.server.park ws h .answering).handler ws =
                { h with point := .answering } :=
              Server.handler_eq (Function.update_self ..)
            refine ⟨?_, fun n hn target htarget => ?_⟩
            · rw [withServer, hpark]
              exact (Handler.Extends.refl h .answering).serves hserves
            · obtain ⟨hserves', hresult, htype⟩ := hgenuine n hn target htarget
              rw [← hserver, Server.handler_eq hw] at hserves'
              exact hanswers target hserves' hresult htype
          · exact hagrees'
        · obtain ⟨hagrees', hserver, -⟩ := hagrees.next hnext rfl
          rw [← hserver] at hw hrest
          exact hagrees'.moveSilently hw hrest

/-! ### Commands -/

/-- Commands may wait that were asked for. -/
theorem Agrees.withSending (hagrees : w.Agrees) {sending : List Sending}
    (hsending : ∀ command ∈ sending, command ∈ w.server.sending ∨
      (w.server.handler command.socket).Addressed command.command) :
    (w.withServer { w.server with sending := sending }).Agrees :=
  hagrees.grow ⟨fun _ => .refl _ _, fun _ => id, fun _ => id, fun _ _ => id⟩ hagrees.aligned
    (hagrees.sound.withSending sending)
    (fun n => (hagrees.sockets n).server rfl rfl fun _ _ heq _ => heq) (fun _ => .inl) hsending
    fun _ => .inl

/-- A command that is addressed to the socket may be handed to it. -/
theorem Agrees.send (hagrees : w.Agrees) {command : Command}
    (haddressed : (w.server.handler ws).Addressed command) : (w.send ws command).Agrees := by
  refine hagrees.withSending fun sending hsend => ?_
  rcases List.mem_append.mp hsend with hold | hnew
  · exact .inl hold
  · rw [List.mem_singleton.mp hnew]
    exact .inr haddressed

/-- A command to a device. -/
theorem Agrees.command (hagrees : w.Agrees) (ws : Socket) (deviceId : DeviceId)
    (type : CommandType) : (w.command ws deviceId type).Agrees := by
  rw [World.command]
  split_ifs with hwhose
  · -- each way to find the socket leads to a handler that has the device
    have hdevice : (w.server.handler ws).deviceId = some deviceId := by
      rcases hwhose with howns | hsession | hhandler
      · obtain ⟨entry, hentry, rfl⟩ := Server.owns_iff.mp howns
        obtain ⟨h, hw, hdevice, -⟩ := hagrees.sound.owner deviceId entry hentry
        rw [Server.handler_eq hw, hdevice]
      · obtain ⟨h, hw, hdevice⟩ := hagrees.sound.session deviceId ws hsession
        rw [Server.handler_eq hw, hdevice]
      · obtain ⟨h, hw, hdevice⟩ := (Option.any_eq_true _ _).mp hhandler
        rw [Server.handler_eq hw, of_decide_eq_true hdevice]
    exact hagrees.send ⟨hdevice, rfl, fun hsome => absurd rfl hsome⟩
  · exact hagrees

/-- A power command to a provisional connection. -/
theorem Agrees.powerCommand (hagrees : w.Agrees) (ws : Socket) (type : CommandType) :
    (w.powerCommand ws type).Agrees := by
  rw [World.powerCommand]
  cases hentry : w.server.provisional ws with
  | none => exact hagrees
  | some entry =>
    dsimp only
    split_ifs with hallows
    · obtain ⟨h, hw, -, -, hissued, -⟩ := hagrees.sound.entry ws entry hentry
      have hserves : (w.server.handler ws).Serves (.connection entry.connectionId) := by
        rw [Server.handler_eq hw]
        exact hissued
      rw [Provisional.allows, Bool.and_eq_true, Bool.and_eq_true] at hallows
      exact hagrees.send ⟨hserves, rfl, fun _ => hallows.1.2⟩
    · exact hagrees

/-- A sending is over. -/
theorem Agrees.withoutSending (hagrees : w.Agrees) (i : Nat) : (w.withoutSending i).Agrees :=
  hagrees.withSending fun _ hsend => .inl (List.mem_of_mem_eraseIdx hsend)

/-- A sending writes its frame, which the registration of the socket still permits. -/
theorem Agrees.write (hagrees : w.Agrees) (i : Nat) : (w.write i).Agrees := by
  rw [World.write]
  cases hsending : w.server.sending[i]? with
  | none => exact hagrees
  | some sending =>
    dsimp only
    split_ifs with hpermits
    · have haddressed := hagrees.sending sending (List.mem_of_getElem? hsending)
      obtain ⟨ws, command⟩ := sending
      cases ws with
      | other n => exact hagrees.withoutSending i
      | own n =>
        have hsocket := (hagrees.sockets n).write haddressed hpermits
        refine (hagrees.withoutSending i).setLink (hsocket.server rfl rfl fun _ _ heq _ => heq)
          (fun hopened => ?_) fun hintact => ?_
        · exact (elim_sendDown (w.links n) (some (.command command))).1.trans hopened
        · exact (elim_sendDown (w.links n) (some (.command command))).2.symm.trans hintact
    · exact hagrees.withoutSending i

/-- The server starts anew. -/
theorem Agrees.restart (hagrees : w.Agrees) : w.restart.Agrees := by
  have hext : ∀ ws, (w.server.handler ws).Extends (w.server.restarted.handler ws) := by
    intro ws
    obtain ⟨point, hhandler⟩ := w.server.handler_restarted ws
    rw [hhandler]
    exact .refl _ point
  refine hagrees.grow ⟨hext, fun n hopened => ?_, fun n hintact => ?_, fun _ _ => id⟩
    hagrees.aligned
    hagrees.sound.restarted (fun n => (hagrees.sockets n).restart) (fun _ => .inl)
    (fun _ hsend => by cases hsend) fun _ => .inl
  · dsimp only [World.restart]
    split_ifs <;> exact hopened
  · dsimp only [World.restart] at hintact
    split_ifs at hintact
    exact hintact

/-! ### Every run -/

variable [DecidableEq Network] {build : Build}

/-- **A step keeps the agreement.** -/
theorem Agrees.step (hagrees : w.Agrees) (hyoung : w.client.manager.Young)
    (event : Event Network) : (w.step build event).Agrees := by
  cases event with
  | resolve event => exact hagrees.resolve event
  | looper t facts accepted => exact hagrees.looper build hyoung t facts accepted
  | posted facts accepted => exact hagrees.posted facts accepted
  | read n => exact hagrees.read n
  | power i fails accepted => exact hagrees.power i fails accepted
  | sendMessage message => exact hagrees.sendMessage message
  | lose n up down => exact hagrees.lose n up down
  | connect ws remote => exact hagrees.connect ws remote
  | receive ws stray connectionId saved verifying =>
    exact hagrees.receive ws stray connectionId saved verifying
  | resume ws failed verifying => exact hagrees.resume ws failed verifying
  | close ws graceful verifying => exact hagrees.close ws graceful verifying
  | command ws deviceId type => exact hagrees.command ws deviceId type
  | powerCommand ws type => exact hagrees.powerCommand ws type
  | write i => exact hagrees.write i
  | abandon i => exact hagrees.withoutSending i
  | restart => exact hagrees.restart

end World

end StylyMdm.Handshake
