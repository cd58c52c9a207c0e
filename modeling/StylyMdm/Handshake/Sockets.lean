import StylyMdm.Handshake.Alignment
import StylyMdm.Handshake.Upstream

/-!
# The sockets of the client

`Socketed` is what holds of one socket of the client, between the client, the server and what is
under way. Most of it holds whatever happens to the connection. What the two sides have of each
other's news holds as long as the socket is registered and its connection intact (`Agreed`).

A socket is `Fresh` until the client registers it: its handler has no device and has given it no
connection id. Afterwards `Socketed` is kept by four things: changes of the server for other sockets
(`Socketed.server`), steps of the looper (`Socketed.follows`), frames that are sent
(`Socketed.send`), and the loss of the connection (`Socketed.lose`), which ends what was agreed and
nothing else.
-/

namespace StylyMdm.Handshake

open Text Registry Client.Identity Client.Connection

namespace Server

variable {s s' : Server} {ws ws' : Socket} {h h' : Handler} {frame : Option Down}

/-- The handler of a socket, or what it will be when the socket has been accepted. -/
def handler (s : Server) (ws : Socket) : Handler := (s.handlers ws).getD {}

/-- The handler that was found. -/
theorem handler_eq (hw : s.handlers ws = some h) : s.handler ws = h := by
  rw [handler, hw, Option.getD_some]

/-- A move leaves its own handler in place. -/
theorem Effect.handlers_self (heffect : s.Effect ws h s' h' frame) : s'.handlers ws = some h' := by
  rw [heffect.handler, Function.update_self]

/-- And those of the other sockets alone. -/
theorem Effect.handlers_other (heffect : s.Effect ws h s' h' frame) (hne : ws' ≠ ws) :
    s'.handlers ws' = s.handlers ws' := by
  rw [heffect.handler, Function.update_of_ne hne]

/-- So every handler has at least the identities it had. -/
theorem Effect.extends (heffect : s.Effect ws h s' h' frame) (hw : s.handlers ws = some h)
    (ws' : Socket) : (s.handler ws').Extends (s'.handler ws') := by
  by_cases hws : ws' = ws
  · subst hws
    rw [handler_eq hw, handler_eq heffect.handlers_self]
    exact heffect.grows
  · have hsame : s'.handler ws' = s.handler ws' := by
      rw [Server.handler, Server.handler, heffect.handlers_other hws]
    rw [hsame]
    exact .refl _ _

end Server

/-! ### What holds of a socket -/

variable {Network : Type*}

/-- What a registered socket agrees on with the server. -/
structure Agreed (c : Client Network) (s : Server) (n : Nat) (link : Link) : Prop where
  announced : Announced c.resolver.visibleState c.posted c.registration.sent s (.own n)
    (s.handler (.own n)) link.up
  heard : ∃ standing, c.registration.Stands standing ∧
    Heard s (.own n) (s.handler (.own n)) link.inbound standing
  matching : ∀ command, link.reader = .matching command → command.connectionId ≠ none

/-- A socket that was not opened has not been registered. -/
structure Fresh (h : Handler) (up : List Up) : Prop where
  up : ∀ frame ∈ up, frame.isRegister = false
  deviceId : h.deviceId = none
  issued : h.issued = none

/-- What a link has to do with the client, and with the handler of its socket. -/
structure Socketed (c : Client Network) (s : Server) (n : Nat) (link : Link) : Prop where
  opened : c.registration.socket = some n → link.opened = true
  current : link.opened = true → c.manager.webSocket = some n → c.registration.socket = some n
  accepted : link.opened = true → (s.handlers (.own n)).isSome = true
  asked : (s.handlers (.own n)).isSome = true → n < c.manager.requests.length
  fresh : link.opened = false → Fresh (s.handler (.own n)) link.up
  upstream : Upstream c.resolver.visibleState (s.handler (.own n)) link.up
  wrote : ∀ frame ∈ link.inbound, (s.handler (.own n)).Wrote frame
  agreed : c.registration.socket = some n → link.lost = false → Agreed c s n link

/-! ### Fresh sockets -/

/-- What a socket is written before its registration is no command. -/
theorem Fresh.flows {h : Handler} {up : List Up} {inbound : List Down} (hfresh : Fresh h up)
    (hwrote : ∀ frame ∈ inbound, h.Wrote frame) (standing : Standing) :
    standing.Flows inbound := by
  induction inbound generalizing standing with
  | nil => trivial
  | cons frame inbound ih =>
    refine ⟨fun command hcommand => ?_,
      ih (fun later hlater => hwrote later (List.mem_cons_of_mem frame hlater)) _⟩
    have haddressed := hwrote frame List.mem_cons_self
    rw [hcommand] at haddressed
    have hserves := haddressed.serves
    cases htarget : command.target with
    | device deviceId =>
      rw [htarget] at hserves
      exact absurd (hfresh.deviceId.symm.trans hserves) (by simp)
    | connection connectionId =>
      rw [htarget] at hserves
      exact absurd (hfresh.issued.symm.trans hserves) (by simp)

/-- The books have nothing of a socket that has not been registered. -/
theorem Server.Sound.heard_of_fresh {s : Server} {ws : Socket} {up : List Up} {inbound : List Down}
    (hs : s.Sound) (haccept : (s.handlers ws).isSome = true) (hfresh : Fresh (s.handler ws) up)
    (hwrote : ∀ frame ∈ inbound, (s.handler ws).Wrote frame) :
    Heard s ws (s.handler ws) inbound .unregistered := by
  obtain ⟨h, hw⟩ := Option.isSome_iff_exists.mp haccept
  have hflows := hfresh.flows hwrote
  have hh : s.handler ws = h := Server.handler_eq hw
  rw [hh] at hfresh ⊢
  have hnone : ∀ deviceId, h.deviceId ≠ some deviceId := by simp [hfresh.deviceId]
  have hentry : ∀ entry, s.provisional ws ≠ some entry := by
    intro entry heq
    obtain ⟨h₀, hh₀, -, -, hissued, -⟩ := hs.entry ws entry heq
    obtain rfl := Option.some.inj (hw.symm.trans hh₀)
    exact absurd (hfresh.issued.symm.trans hissued) (by simp)
  have hat := hs.point ws h hw
  refine ⟨trivial, hflows _, fun deviceId entry heq hws _ => ?_, fun hpoint => ?_,
    fun entry heq => absurd heq (hentry entry), fun connectionId hpoint => ?_⟩
  · obtain ⟨h₀, hh₀, hdevice, -⟩ := hs.owner deviceId entry heq
    obtain rfl := Option.some.inj (hw.symm.trans (hws ▸ hh₀))
    exact absurd hdevice (hnone deviceId)
  · rw [hpoint] at hat
    obtain ⟨deviceId, hdevice, -⟩ := hat
    exact absurd hdevice (hnone deviceId)
  · rw [hpoint] at hat
    obtain ⟨-, entry, heq, -⟩ := hat
    exact absurd heq (hentry entry)

/-- A socket that was written a command is open. -/
theorem Socketed.opened_of_addressed {c : Client Network} {s : Server} {n : Nat} {link : Link}
    {command : Command} (hsocket : Socketed c s n link)
    (haddressed : (s.handler (.own n)).Addressed command) : link.opened = true := by
  by_contra hnot
  have hfresh := hsocket.fresh (Bool.not_eq_true _ ▸ hnot)
  have hflows : ∀ standing : Standing, standing.Flows [.command command] :=
    hfresh.flows fun frame hframe => List.mem_singleton.mp hframe ▸ haddressed
  have hcanonical := (hflows .canonical).1 command rfl
  have hunregistered := (hflows .unregistered).1 command rfl
  exact absurd (hcanonical.trans hunregistered.symm) (by simp)

namespace Socketed

variable {c c' : Client Network} {s s' : Server} {n m : Nat} {link : Link}

/-- A link that is open has been asked for. -/
theorem lt (h : Socketed c s n link) (hopened : link.opened = true) :
    n < c.manager.requests.length := h.asked (h.accepted hopened)

/-! ### Changes elsewhere -/

/-- A power thread is no part of a link. -/
theorem withThreads (h : Socketed c s n link) (threads : List PowerThread) :
    Socketed { c with threads := threads } s n link :=
  ⟨h.opened, h.current, h.accepted, h.asked, h.fresh, h.upstream, h.wrote,
    fun hsocket hintact => ⟨(h.agreed hsocket hintact).announced, (h.agreed hsocket hintact).heard,
      (h.agreed hsocket hintact).matching⟩⟩

/-- Another socket is the current one. -/
theorem elsewhere (h : Socketed c s n link) (hc : c'.Aligned)
    (hresolver : c'.resolver = c.resolver)
    (hrequests : c'.manager.requests.length = c.manager.requests.length)
    (hm : c'.registration.socket = some m) (hne : n ≠ m) : Socketed c' s n link where
  opened hn := absurd (Option.some.inj (hn.symm.trans hm)) hne
  current _ hn := absurd (Option.some.inj (hn.symm.trans (hc.registered m hm).1)) hne
  accepted := h.accepted
  asked := hrequests ▸ h.asked
  fresh := h.fresh
  upstream := hresolver ▸ h.upstream
  wrote := h.wrote
  agreed hn := absurd (Option.some.inj (hn.symm.trans hm)) hne

/-- The server has not touched what belongs to the socket. -/
theorem server (h : Socketed c s n link) (hhandler : s'.handlers (.own n) = s.handlers (.own n))
    (hprovisional : s'.provisional (.own n) = s.provisional (.own n))
    (hdevices : ∀ deviceId entry, s'.devices deviceId = some entry → entry.ws = .own n →
      s.devices deviceId = some entry) : Socketed c s' n link := by
  have hsame : s'.handler (.own n) = s.handler (.own n) := by
    rw [Server.handler, Server.handler, hhandler]
  refine ⟨h.opened, h.current, hhandler ▸ h.accepted, hhandler ▸ h.asked, hsame ▸ h.fresh,
    hsame ▸ h.upstream, hsame ▸ h.wrote, fun hsocket hintact => ?_⟩
  obtain ⟨hannounced, ⟨standing, hstands, hheard⟩, hmatching⟩ := h.agreed hsocket hintact
  refine ⟨?_, ⟨standing, hstands, ?_⟩, hmatching⟩
  · rw [hsame]
    refine hannounced.handler rfl fun hinformed => hinformed.mono rfl id fun entry heq => ?_
    exact .inr ⟨entry, hprovisional ▸ heq, rfl, rfl⟩
  · rw [hsame]
    exact ⟨hheard.gave, hheard.flows,
      fun deviceId entry heq hws => hheard.ready deviceId entry
        (hdevices deviceId entry heq hws) hws,
      hheard.acknowledged, fun entry heq => hheard.readyProvisional entry (hprovisional ▸ heq),
      hheard.issued⟩

/-! ### The client -/

/-- The resolver moves, and the link agrees with it as before. -/
theorem resolve (h : Socketed c s n link) (hc : c.Aligned)
    (event : DeviceIdentityResolver.Event) : Socketed (c.resolve event) s n link where
  opened := h.opened
  current := h.current
  accepted := h.accepted
  asked := h.asked
  fresh := h.fresh
  upstream := h.upstream.resolve fun _ hready => (ready_step hc.singleFlight hready event).1
  wrote := h.wrote
  agreed hsocket hintact := by
    obtain ⟨hannounced, hheard, hmatching⟩ := h.agreed hsocket hintact
    refine ⟨⟨hannounced.sent, fun hnil => ?_⟩, hheard, hmatching⟩
    obtain ⟨hposted, htold⟩ := List.append_eq_nil_iff.mp hnil
    have hsame : (c.resolver.step event).1.visibleState = c.resolver.visibleState := by
      rw [told_step, Option.toList_eq_nil_iff.mp htold, Option.getD_none]
    rw [Client.resolve, hsame]
    exact hannounced.told hposted

/-- The connection window does something. -/
theorem follows (h : Socketed c s n link) (hfollows : c.Follows c') : Socketed c' s n link := by
  have hkept : c'.registration.socket = some n → c'.registration = c.registration := by
    intro hn
    rcases hfollows.registration with ⟨hregistration, -, -⟩ | hcleared
    · exact hregistration
    · rw [hcleared.registration] at hn
      cases hn
  refine ⟨fun hn => h.opened (hkept hn ▸ hn), fun hopened hn => ?_, h.accepted,
    fun hsome => (h.asked hsome).trans_le hfollows.requests, h.fresh,
      hfollows.resolver ▸ h.upstream,
    h.wrote, fun hn hintact => ?_⟩
  · have hlt := h.lt hopened
    rcases hfollows.registration with ⟨hregistration, -, hwebSocket⟩ | hcleared
    · rcases hwebSocket with hsame | ⟨-, hnew⟩
      · rw [hregistration]
        exact h.current hopened (hsame ▸ hn)
      · exact absurd (hnew n hn) (by omega)
    · exact absurd (hcleared.webSocket n hn) (by omega)
  · have hregistration := hkept hn
    obtain ⟨hannounced, hheard, hmatching⟩ := h.agreed (hregistration ▸ hn) hintact
    refine ⟨?_, hregistration ▸ hheard, hmatching⟩
    rw [hfollows.resolver, hfollows.posted, hregistration]
    exact hannounced

/-- The client sends something else than its registration. -/
theorem send (h : Socketed c s n link) {frame : Up} (hframe : frame.isRegister = false)
    (hgenuine : link.lost = false → Genuine c.resolver.visibleState (s.handler (.own n)) frame) :
    Socketed c s n (link.sendUp frame) := by
  rw [Link.sendUp]
  split_ifs with hlost
  · exact h
  · have hintact := Bool.not_eq_true _ ▸ hlost
    refine ⟨h.opened, h.current, h.accepted, h.asked, fun hfresh => ?_,
      h.upstream.send (hgenuine hintact) fun hregister => ?_, h.wrote, fun hn _ => ?_⟩
    · obtain ⟨hup, hdevice, hissued⟩ := h.fresh hfresh
      refine ⟨fun later hlater => ?_, hdevice, hissued⟩
      rcases List.mem_append.mp hlater with hold | hnew
      · exact hup later hold
      · rw [List.mem_singleton.mp hnew]
        exact hframe
    · exact absurd (hframe.symm.trans hregister) Bool.false_ne_true
    · obtain ⟨hannounced, hheard, hmatching⟩ := h.agreed hn hintact
      exact ⟨hannounced.send hframe, hheard, hmatching⟩

/-- The connection is lost, and with it some of what is under way. -/
theorem lose (h : Socketed c s n link) (up down : Nat) :
    Socketed c s n
      { link with lost := true, up := link.up.take up, down := link.down.take down } where
  opened := h.opened
  current := h.current
  accepted := h.accepted
  asked := h.asked
  fresh hopened := by
    obtain ⟨hup, hdevice, hissued⟩ := h.fresh hopened
    exact ⟨fun frame hframe => hup frame (List.mem_of_mem_take hframe), hdevice, hissued⟩
  upstream := h.upstream.sublist (List.take_sublist _ _)
  wrote frame hframe := by
    refine h.wrote frame ?_
    rcases List.mem_append.mp hframe with hreader | hdown
    · exact List.mem_append_left _ hreader
    · exact List.mem_append_right _ (List.mem_of_mem_take hdown)
  agreed _ hintact := by cases hintact

/-- A socket is opened that the client has let go of. -/
theorem openedLate (h : Socketed c s n link) (haccept : (s.handlers (.own n)).isSome = true)
    (hcurrent : c.manager.webSocket ≠ some n) : Socketed c s n { link with opened := true } where
  opened _ := rfl
  current _ hn := absurd hn hcurrent
  accepted _ := haccept
  asked := h.asked
  fresh hopened := by cases hopened
  upstream := h.upstream
  wrote := h.wrote
  agreed hn hintact := by
    obtain ⟨hannounced, hheard, hmatching⟩ := h.agreed hn hintact
    exact ⟨hannounced, hheard, hmatching⟩

/-! ### Registrations -/

/-- A socket whose connection is lost does not depend on what is registered for it. -/
theorem broken (h : Socketed c s n link) (hresolver : c'.resolver = c.resolver)
    (hmanager : c'.manager = c.manager) (hsocket : c'.registration.socket = c.registration.socket)
    (hlost : link.lost = true) : Socketed c' s n link where
  opened hn := h.opened (hsocket.symm.trans hn)
  current hopened hn := hsocket.trans (h.current hopened (hmanager ▸ hn))
  accepted := h.accepted
  asked := hmanager ▸ h.asked
  fresh := h.fresh
  upstream := hresolver ▸ h.upstream
  wrote := h.wrote
  agreed _ hintact := absurd (hlost.symm.trans hintact) (by decide)

/-- The client tells its socket of an identity. `posted` is what was posted before. -/
theorem sendRegistration {posted : List DeviceIdentityState}
    (h : Socketed { c with posted := posted } s n link) (facts : Facts)
    (identity : DeviceIdentityState) (accepted : Bool) (hn : c.registration.socket = some n)
    (haccepted : link.lost = false → accepted = true)
    (hready : ∀ deviceId, identity = .ready deviceId → c.resolver.visibleState = .ready deviceId)
    (hlatest : c.posted = [] → identity = c.resolver.visibleState) :
    Socketed (c.sendRegistration facts n identity accepted).1 s n
      ((c.sendRegistration facts n identity accepted).2.elim link fun sent =>
        link.sendUp sent.2) := by
  cases hlost : link.lost with
  | true =>
    obtain ⟨r, hr, hregistered, hsent⟩ :=
      c.sendRegistration_eq facts n identity accepted
    have hsame : ((c.sendRegistration facts n identity accepted).2.elim link fun sent =>
        link.sendUp sent.2) = link := by
      rcases hsent with hnone | hsome
      · rw [hnone, Option.elim_none]
      · rw [hsome, Option.elim_some, Link.sendUp, if_pos hlost]
    rw [hsame, hregistered]
    exact h.broken rfl rfl hr hlost
  | false =>
    obtain rfl := haccepted hlost
    obtain ⟨hannounced, hheard, hmatching⟩ := h.agreed hn hlost
    cases hsent : c.registration.sent with
    | true =>
      have hisSent : c.registration.isSent n = true := by
        rw [ConnectionRegistration.isSent, hsent, hn]
        simp
      rw [Client.sendRegistration, if_pos hisSent, Option.elim_none]
      refine ⟨h.opened, h.current, h.accepted, h.asked, h.fresh, h.upstream, h.wrote,
        fun _ _ => ⟨⟨hannounced.sent, fun _ => ?_⟩, hheard, hmatching⟩⟩
      rw [show Client.registration { c with posted := posted } = c.registration from rfl, hsent]
        at hannounced
      exact hannounced.told_of_sent h.upstream
    | false =>
      rw [Client.sendRegistration_accepted hn hsent, Option.elim_some, Link.sendUp, hlost,
        if_neg Bool.false_ne_true]
      rw [show Client.registration { c with posted := posted } = c.registration from rfl, hsent]
        at hannounced
      have hnone := not_or.mp fun hor => Bool.false_ne_true (hannounced.sent.mpr hor)
      refine ⟨h.opened, h.current, h.accepted, h.asked, fun hopened => ?_,
        h.upstream.send (genuine_registration _ facts hready) fun _ =>
          ⟨not_not.mp hnone.1, Bool.eq_false_iff.mpr hnone.2⟩, h.wrote,
        fun _ _ => ⟨hannounced.register facts hlatest, hheard, hmatching⟩⟩
      exact absurd (h.opened hn) (by rw [show link.opened = false from hopened]; decide)

/-- The current socket is opened. -/
theorem opening (h : Socketed c s n link) (hs : s.Sound) (facts : Facts) (accepted : Bool)
    (hopened : link.opened = false) (haccept : (s.handlers (.own n)).isSome = true)
    (hresolver : c'.resolver = c.resolver) (hregistration : c'.registration = .opened n)
    (hrequests : c'.manager.requests.length = c.manager.requests.length)
    (haccepted : link.lost = false → accepted = true) :
    Socketed (c'.sendRegistration facts n c'.resolver.visibleState accepted).1 s n
      ((c'.sendRegistration facts n c'.resolver.visibleState accepted).2.elim
        { link with opened := true } fun sent => { link with opened := true }.sendUp sent.2) := by
  have hfresh := h.fresh hopened
  have hheard := hs.heard_of_fresh haccept hfresh h.wrote
  obtain ⟨hup, hdevice, hissued⟩ := hfresh
  have hbase : Socketed { c' with posted := [c'.resolver.visibleState] } s n
      { link with opened := true } := by
    refine ⟨fun _ => rfl, fun _ _ => congrArg _ hregistration, fun _ => haccept,
      fun hsome => hrequests ▸ h.asked hsome, fun hfalse => (by cases hfalse),
      hresolver ▸ h.upstream, h.wrote, fun _ _ => ⟨⟨?_, fun hnil => (by cases hnil)⟩,
        ⟨.unregistered, congrArg _ hregistration, hheard⟩, fun command hreader => ?_⟩⟩
    · refine iff_of_false (fun hsent => ?_) (not_or.mpr ⟨not_not.mpr hdevice, fun hfinal => ?_⟩)
      · rw [hregistration] at hsent
        cases hsent
      · obtain ⟨frame, hframe, hfinal⟩ := List.any_eq_true.mp hfinal
        exact Bool.false_ne_true ((hup frame hframe).symm.trans (Up.isRegister_of_isFinal hfinal))
    · -- a reader has come to this test with a command
      have haddressed := h.wrote (.command command) (List.mem_append_left _ (by
        rw [show link.reader = .matching command from hreader]
        exact List.mem_singleton_self _))
      rw [h.opened_of_addressed haddressed] at hopened
      cases hopened
  exact hbase.sendRegistration facts _ _ (congrArg _ hregistration) haccepted
    (fun _ => id) fun _ => rfl

end Socketed

end StylyMdm.Handshake
