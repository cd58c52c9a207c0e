import StylyMdm.Handshake.Handling
import StylyMdm.Handshake.Reading

/-!
# The client and the server agree

`World.Agrees` is the invariant of the whole system: each socket of the client is as `Socketed`
says, the threads know the connection that their command is for, what waits to be written is for its
socket, and what is recorded is right. Here it is kept by the steps of the client.

What is recorded only grows, and a record that was right stays right, since it is about the identity
of the client and about links that once existed (`Record.Holds`, `Grows`). So a step has to be
looked at where it adds a record: when a reader hands a command on or ignores it, and when a thread
answers.

The parts of the client act on different fields. The looper changes the registration and the
current socket, a reader the front of one queue, a thread its own stage; the lemmas are in this
order.
-/

namespace StylyMdm.Handshake

open Text Py Registry Client.Identity Client.Connection

variable {Network : Type*}

/-! ### Links -/

/-- A link is changed alone. -/
theorem World.setLink_links (w : World Network) (n m : Nat) (link : Link) :
    (w.setLink n link).links m = if m = n then link else w.links m :=
  Function.update_apply ..

/-- A frame does not open a link. -/
@[simp] theorem Link.sendUp_opened (link : Link) (frame : Up) :
    (link.sendUp frame).opened = link.opened := by
  rw [sendUp]
  split_ifs <;> rfl

/-- Nor does it restore one. -/
@[simp] theorem Link.sendUp_lost (link : Link) (frame : Up) :
    (link.sendUp frame).lost = link.lost := by
  rw [sendUp]
  split_ifs <;> rfl

/-! ### The invariant -/

/-- A thread that can still send or do something has the connection id that its command is for. -/
structure Threaded (c : Client Network) (s : Server) (link : Link) (thread : PowerThread) :
    Prop where
  addressed : (s.handler (.own thread.context.socket)).Addressed thread.command
  opened : link.opened = true
  context : link.lost = false →
    thread.stage ≠ .begun ∨ c.manager.webSocket = some thread.context.socket →
      thread.context.provisionalConnectionId = thread.command.connectionId

/-- What is recorded is right: no command was ignored on the current socket, commands were for
their socket, and the result of a command comes from whom the command was for. -/
def Record.Holds (s : Server) : Record → Prop
  | .ignored _ _ current => current = false
  | .handled n command | .invoked n command => (s.handler (.own n)).Addressed command
  | .forwarded ws sender result => (s.handler ws).Serves sender ∧
    ∀ n, ws = .own n → ∀ target, result.answers = some target → target = sender

namespace World

/-- The invariant of the handshake: each side is sound on its own, and every link and every frame
under way agrees with both. -/
structure Agrees (w : World Network) : Prop where
  aligned : w.client.Aligned
  sound : w.server.Sound
  sockets : ∀ n, Socketed w.client w.server n (w.links n)
  threads : ∀ thread ∈ w.client.threads,
    Threaded w.client w.server (w.links thread.context.socket) thread
  sending : ∀ sending ∈ w.server.sending,
    (w.server.handler sending.socket).Addressed sending.command
  log : ∀ record ∈ w.log, record.Holds w.server

/-- What no step undoes. -/
structure Grows (w w' : World Network) : Prop where
  handler : ∀ ws, (w.server.handler ws).Extends (w'.server.handler ws)
  opened : ∀ n, (w.links n).opened = true → (w'.links n).opened = true
  lost : ∀ n, (w'.links n).lost = false → (w.links n).lost = false
  webSocket : ∀ n, (w.links n).opened = true → w'.client.manager.webSocket = some n →
    w.client.manager.webSocket = some n

variable {w w' : World Network}

/-- A thread that was started for a command stays so while the world grows. -/
theorem Grows.threaded (hgrows : w.Grows w') {thread : PowerThread}
    (h : Threaded w.client w.server (w.links thread.context.socket) thread) :
    Threaded w'.client w'.server (w'.links thread.context.socket) thread where
  addressed := (hgrows.handler _).addressed h.addressed
  opened := hgrows.opened _ h.opened
  context hintact hactive :=
    h.context (hgrows.lost _ hintact) (hactive.imp_right (hgrows.webSocket _ h.opened))

/-- A record that holds keeps holding. -/
theorem Grows.holds (hgrows : w.Grows w') {record : Record} (h : record.Holds w.server) :
    record.Holds w'.server := by
  cases record with
  | ignored n command current => exact h
  | handled n command => exact (hgrows.handler _).addressed h
  | invoked n command => exact (hgrows.handler _).addressed h
  | forwarded ws sender result => exact ⟨(hgrows.handler _).serves h.1, h.2⟩

/-- Only what is new has to be looked at. -/
theorem Agrees.grow (h : w.Agrees) (hgrows : w.Grows w') (haligned : w'.client.Aligned)
    (hsound : w'.server.Sound) (hsockets : ∀ n, Socketed w'.client w'.server n (w'.links n))
    (hthreads : ∀ thread ∈ w'.client.threads, thread ∈ w.client.threads ∨
      Threaded w'.client w'.server (w'.links thread.context.socket) thread)
    (hsending : ∀ sending ∈ w'.server.sending, sending ∈ w.server.sending ∨
      (w'.server.handler sending.socket).Addressed sending.command)
    (hlog : ∀ record ∈ w'.log, record ∈ w.log ∨ record.Holds w'.server) : w'.Agrees where
  aligned := haligned
  sound := hsound
  sockets := hsockets
  threads thread hthread := by
    rcases hthreads thread hthread with hold | hnew
    · exact hgrows.threaded (h.threads thread hold)
    · exact hnew
  sending sending hsend := by
    rcases hsending sending hsend with hold | hnew
    · exact (hgrows.handler _).addressed (h.sending sending hold)
    · exact hnew
  log record hrecord := by
    rcases hlog record hrecord with hold | hnew
    · exact hgrows.holds (h.log record hold)
    · exact hnew

/-- Nothing has been sent at the start. -/
theorem agrees_start (resolved : List DeviceIdentityResolver.Event) (preferences : Preferences) :
    (start resolved preferences : World Network).Agrees where
  aligned := .connect resolved preferences
  sound := ⟨fun _ _ heq => (by cases heq), fun _ _ heq => (by cases heq),
    fun _ _ heq => (by cases heq), fun _ _ _ heq => (by cases heq), fun _ _ heq => (by cases heq)⟩
  sockets n := by
    refine ⟨fun heq => (by cases heq), fun heq => (by cases heq), fun heq => (by cases heq),
      fun heq => (by cases heq), fun _ => ⟨fun _ hframe => (by cases hframe), rfl, rfl⟩,
      ⟨fun _ hframe => (by cases hframe), .nil, fun _ _ hframe => (by cases hframe),
        fun _ heq => (by cases heq)⟩, fun _ hframe => (by cases hframe), fun heq => (by cases heq)⟩
  threads _ hthread := by cases hthread
  sending _ hsend := by cases hsend
  log _ hrecord := by cases hrecord

/-! ### The client -/

/-- The resolver moves, and what was told of it before stays true. -/
theorem Agrees.resolve (h : w.Agrees) (event : DeviceIdentityResolver.Event) :
    { w with client := w.client.resolve event }.Agrees :=
  h.grow ⟨fun _ => .refl _ _, fun _ => id, fun _ => id, fun _ _ => id⟩ (h.aligned.resolve event)
    h.sound (fun n => (h.sockets n).resolve h.aligned event) (fun _ => .inl) (fun _ => .inl)
    fun _ => .inl

/-- The manager moves, and the client follows it. -/
theorem Agrees.follows {c : Client Network} (h : w.Agrees) (hfollows : w.client.Follows c)
    (hgood : ∃ φ, c.manager.Good φ) : { w with client := c }.Agrees := by
  have haligned := h.aligned.follows hfollows hgood
  refine h.grow ⟨fun _ => .refl _ _, fun _ => id, fun _ => id, fun n hopened hn => ?_⟩ haligned
    h.sound (fun n => (h.sockets n).follows hfollows)
    (fun thread hthread => .inl (hfollows.threads ▸ hthread)) (fun _ => .inl) fun _ => .inl
  have hregistered := ((h.sockets n).follows hfollows).current hopened hn
  rcases hfollows.registration with ⟨hregistration, -, -⟩ | hcleared
  · exact (h.aligned.registered n (hregistration ▸ hregistered)).1
  · rw [hcleared.registration] at hregistered
    cases hregistered

/-- The client sends what it likes on one socket. -/
theorem transmit_links {sent : Sent} {n : Nat} (hsent : ∀ m frame, sent = some (m, frame) → m = n)
    (k : Nat) : (w.transmit sent).links k =
      if k = n then sent.elim (w.links n) fun sent => (w.links n).sendUp sent.2
      else w.links k := by
  cases sent with
  | none =>
    rw [transmit, Option.elim_none]
    split_ifs with hk
    · rw [hk]
    · rfl
  | some sent =>
    obtain rfl := hsent sent.1 sent.2 rfl
    exact setLink_links w sent.1 k _

/-- A frame under way is no change of the client. -/
@[simp] theorem transmit_client (sent : Sent) : (w.transmit sent).client = w.client := by
  cases sent <;> rfl

/-- Nor of the server. -/
@[simp] theorem transmit_server (sent : Sent) : (w.transmit sent).server = w.server := by
  cases sent <;> rfl

/-- Nor of the log. -/
@[simp] theorem transmit_log (sent : Sent) : (w.transmit sent).log = w.log := by
  cases sent <;> rfl

/-- The current socket takes a frame, if its connection is intact. -/
theorem currentAccepts_of_intact {n : Nat} {accepted : Bool}
    (hcurrent : w.client.manager.webSocket = some n) (hintact : (w.links n).lost = false) :
    w.currentAccepts accepted = true := by
  rw [currentAccepts, hcurrent]
  simp only [accepts, hcurrent, hintact, decide_true, Bool.not_false, Bool.and_self, Bool.or_true]

/-- The client `c` has told its socket `n` of an identity. `link` is the socket before this. -/
theorem Agrees.sendRegistration (h : w.Agrees) {c : Client Network} {n : Nat} {link : Link}
    {identity : DeviceIdentityState} {accepted : Bool} (facts : Facts) (hc : c.Aligned)
    (hn : c.registration.socket = some n) (hresolver : c.resolver = w.client.resolver)
    (hthreads : c.threads = w.client.threads)
    (hrequests : c.manager.requests.length = w.client.manager.requests.length)
    (hcurrent : w.client.manager.webSocket = some n)
    (hopened : (w.links n).opened = true → link.opened = true)
    (hlost : link.lost = (w.links n).lost)
    (hsocket : Socketed (c.sendRegistration facts n identity accepted).1 w.server n
      ((c.sendRegistration facts n identity accepted).2.elim link fun sent =>
        link.sendUp sent.2)) :
    (({ w with client := (c.sendRegistration facts n identity accepted).1 }.setLink n
      link).transmit (c.sendRegistration facts n identity accepted).2).Agrees := by
  obtain ⟨r, hr, hclient, hsent⟩ := c.sendRegistration_eq facts n identity accepted
  have hwhere : ∀ m frame, (c.sendRegistration facts n identity accepted).2 = some (m, frame) →
      m = n := by
    intro m frame heq
    rcases hsent with hnone | hsome
    · exact absurd (hnone.symm.trans heq) (by simp)
    · exact (congrArg Prod.fst (Option.some.inj (hsome.symm.trans heq))).symm
  have haligned : (c.sendRegistration facts n identity accepted).1.Aligned :=
    hclient ▸ hc.withRegistration hr
  generalize c.sendRegistration facts n identity accepted = ran at *
  obtain ⟨c', sent⟩ := ran
  dsimp only at *
  subst hclient
  have hlinks : ∀ k, (({ w with client := { c with registration := r } }.setLink n
      link).transmit sent).links k =
        if k = n then sent.elim link fun sent => link.sendUp sent.2 else w.links k := by
    intro k
    rw [transmit_links hwhere, setLink_links, if_pos rfl, setLink_links]
    split_ifs <;> rfl
  have hkept : ∀ sent : Sent, (sent.elim link fun sent => link.sendUp sent.2).opened = link.opened ∧
      (sent.elim link fun sent => link.sendUp sent.2).lost = link.lost := by
    intro sent
    cases sent with
    | none => exact ⟨rfl, rfl⟩
    | some sent => exact ⟨link.sendUp_opened sent.2, link.sendUp_lost sent.2⟩
  refine h.grow ⟨fun ws => ?_, fun k hk => ?_, fun k hk => ?_, fun k _ hk => ?_⟩ ?_ ?_
    (fun k => ?_) (fun thread hthread => .inl ?_)
      (fun sending hsend => .inl ?_) fun record hrecord =>
      .inl ?_
  · rw [transmit_server]
    exact .refl _ _
  · rw [hlinks]
    split_ifs with hkn
    · rw [(hkept sent).1]
      exact hopened (hkn ▸ hk)
    · exact hk
  · rw [hlinks] at hk
    split_ifs at hk with hkn
    · rw [(hkept sent).2, hlost] at hk
      exact hkn ▸ hk
    · exact hk
  · rw [transmit_client] at hk
    rw [hcurrent, ← (hc.registered n hn).1]
    exact hk
  · rw [transmit_client]
    exact haligned
  · rw [transmit_server]
    exact h.sound
  · rw [transmit_client, transmit_server, hlinks]
    split_ifs with hkn
    · rw [hkn]
      exact hsocket
    · exact (h.sockets k).elsewhere haligned hresolver hrequests (hr.trans hn) hkn
  · rw [transmit_client] at hthread
    exact hthreads ▸ hthread
  · rw [transmit_server] at hsend
    exact hsend
  · rw [transmit_log] at hrecord
    exact hrecord

/-- The client lets something pass that was posted, as no socket is registered. -/
theorem Agrees.skipPosted (h : w.Agrees) {identity : DeviceIdentityState}
    {posted : List DeviceIdentityState} (hposted : w.client.posted = identity :: posted)
    (hnone : ∀ n, w.client.registration.socket ≠ some n) :
    { w with client := { w.client with posted := posted } }.Agrees := by
  refine h.grow ⟨fun _ => .refl _ _, fun _ => id, fun _ => id, fun _ _ => id⟩
    (h.aligned.withPosted hposted) h.sound (fun n => ?_) (fun _ => .inl)
      (fun _ => .inl) fun _ => .inl
  have hsocket := h.sockets n
  exact ⟨hsocket.opened, hsocket.current, hsocket.accepted, hsocket.asked, hsocket.fresh,
    hsocket.upstream, hsocket.wrote, fun hn => absurd hn (hnone n)⟩

/-- A message of the identity listener. -/
theorem Agrees.posted (h : w.Agrees) (facts : Facts) (accepted : Bool) :
    (w.posted facts accepted).Agrees := by
  rw [World.posted, Client.runPosted]
  cases hposted : w.client.posted with
  | nil => exact h
  | cons identity posted =>
    dsimp only
    cases hcurrent : w.client.manager.webSocket with
    | none =>
      refine h.skipPosted hposted fun n hn => ?_
      exact absurd (hcurrent.symm.trans (h.aligned.registered n hn).1) (by simp)
    | some n =>
      dsimp only
      obtain ⟨φ, hgood⟩ := h.aligned.good
      split_ifs with hopen
      · have hn := h.aligned.current hcurrent (Bool.and_eq_true_iff.mp hopen).2
        have hsend := h.sendRegistration facts (h.aligned.withPosted hposted) hn rfl rfl rfl
          hcurrent id rfl ((h.sockets n).sendRegistration (c := { w.client with posted := posted })
            facts identity (w.currentAccepts accepted) hn (currentAccepts_of_intact hcurrent)
            (fun deviceId hready => h.aligned.found deviceId ?_) fun hnil => ?_)
        · rwa [setLink, Function.update_eq_self] at hsend
        · rw [hposted, hready]
          exact List.mem_cons_self
        · refine h.aligned.latest identity ?_
          rw [hposted, show posted = [] from hnil]
          rfl
      · -- a socket that is registered is open
        refine h.skipPosted hposted fun m hm => hopen ?_
        rw [hgood.numbered.isRunning, (h.aligned.registered m hm).2, Bool.and_self]

/-- Something happens to one socket. -/
theorem Agrees.setLink (h : w.Agrees) {n : Nat} {link : Link}
    (hsocket : Socketed w.client w.server n link)
    (hopened : (w.links n).opened = true → link.opened = true)
    (hlost : link.lost = false → (w.links n).lost = false) : (w.setLink n link).Agrees := by
  refine h.grow ⟨fun _ => .refl _ _, fun k hk => ?_, fun k hk => ?_, fun _ _ => id⟩
    h.aligned h.sound
    (fun k => ?_) (fun _ => .inl) (fun _ => .inl) fun _ => .inl
  · rw [setLink_links]
    split_ifs with hkn
    · exact hopened (hkn ▸ hk)
    · exact hk
  · rw [setLink_links] at hk
    split_ifs at hk with hkn
    · exact hkn ▸ hlost hk
    · exact hk
  · rw [setLink_links]
    split_ifs with hkn
    · rw [hkn]
      exact hsocket
    · exact h.sockets k

/-- A frame that is no registration may be sent when what it says is true. -/
theorem Agrees.transmit (h : w.Agrees) {n : Nat} {frame : Up} (hframe : frame.isRegister = false)
    (hgenuine : (w.links n).lost = false →
      Genuine w.client.resolver.visibleState (w.server.handler (.own n)) frame) :
    (w.transmit (some (n, frame))).Agrees :=
  h.setLink ((h.sockets n).send hframe hgenuine) ((Link.sendUp_opened ..).trans ·)
    ((Link.sendUp_lost ..).symm.trans ·)

/-- A message that carries no connection id is always true. -/
theorem Agrees.sendMessage (h : w.Agrees) (message : Option Str) :
    (w.sendMessage message).Agrees := by
  unfold World.sendMessage
  cases w.client.manager.webSocket with
  | none => exact h
  | some n =>
    cases message with
    | none => exact h.transmit rfl fun _ => trivial
    | some name => exact h.transmit rfl fun _ target htarget => (by cases htarget)

/-- A link is lost. -/
theorem Agrees.lose (h : w.Agrees) (n up down : Nat) : (w.lose n up down).Agrees :=
  h.setLink ((h.sockets n).lose up down) id fun hintact => (by cases hintact)

section Looper

variable [DecidableEq Network] (build : Build)

/-- The current socket is opened. -/
theorem Agrees.opening (h : w.Agrees) (hyoung : w.client.manager.Young) {t : Turn Network} {n : Nat}
    (facts : Facts) (accepted : Bool) (ht : t.message = .socketOpened n)
    (htime : w.client.manager.uptime ≤ t.now ∧ t.now ≤ t.later)
    (haccept : (w.server.handlers (.own n)).isSome = true) (hopened : (w.links n).opened = false)
    (hcurrent : w.client.manager.webSocket = some n) :
    (({ w with
      client := (w.client.turn build t facts (w.currentAccepts accepted)).1 }.setLink n
        { w.links n with opened := true }).transmit
          (w.client.turn build t facts (w.currentAccepts accepted)).2).Agrees := by
  obtain ⟨φ, hgood⟩ := h.aligned.good
  obtain ⟨φ', hgood', -⟩ := hgood.turn build t hyoung
  obtain ⟨m, hm, hrequests, hturn⟩ := Client.turn_socketOpened build facts
    (w.currentAccepts accepted) ht htime hcurrent
  have hmanager : (w.client.turn build t facts (w.currentAccepts accepted)).1.manager =
      w.client.manager.turn build t := Client.turn_manager
  rw [hturn, Client.sendRegistration_manager] at hmanager
  have haligned : Client.Aligned
      { w.client with manager := m, socketOpen := true, registration := .opened n } := by
    refine ⟨⟨φ', hmanager.symm ▸ hgood'⟩, h.aligned.singleFlight, h.aligned.latest, h.aligned.found,
      fun k hk => ?_, fun _ => Option.some_ne_none n⟩
    rw [← Option.some.inj hk]
    exact ⟨hm, rfl⟩
  rw [hturn]
  exact h.sendRegistration facts haligned rfl rfl rfl (congrArg List.length hrequests) hcurrent
    (fun _ => rfl) rfl ((h.sockets n).opening h.sound facts _ hopened haccept rfl rfl
      (congrArg List.length hrequests) (currentAccepts_of_intact hcurrent))

/-- A message of the main looper, but for those of the identity listener. -/
theorem Agrees.looper (h : w.Agrees) (hyoung : w.client.manager.Young) (t : Turn Network)
    (facts : Facts) (accepted : Bool) : (w.looper build t facts accepted).Agrees := by
  obtain ⟨φ, hgood⟩ := h.aligned.good
  obtain ⟨φ', hgood', -⟩ := hgood.turn build t hyoung
  have hfollows : (∀ n, t.message = .socketOpened n → w.client.manager.webSocket ≠ some n) →
      ∀ w' : World Network, w'.Agrees → w'.client = w.client →
        ({ w' with
          client := (w.client.turn build t facts (w.currentAccepts accepted)).1 }.transmit
            (w.client.turn build t facts (w.currentAccepts accepted)).2).Agrees := by
    intro ht w' hw' hclient
    obtain ⟨hfollows, hnone⟩ :=
      Client.follows_turn facts (w.currentAccepts accepted) build hgood hyoung ht
    rw [hnone]
    refine hw'.follows (hclient ▸ hfollows) ⟨φ', ?_⟩
    rw [Client.turn_manager]
    exact hgood'
  rw [World.looper]
  dsimp only
  split_ifs with htime
  · split
    · rename_i n ht
      split_ifs with hnot
      · exact h
      · obtain ⟨haccept, hopened⟩ := not_or.mp hnot
        have haccept : (w.server.handlers (.own n)).isSome = true := by
          rwa [Option.isNone_iff_eq_none, ← Ne, Option.ne_none_iff_isSome] at haccept
        by_cases hcurrent : w.client.manager.webSocket = some n
        · exact h.opening build hyoung facts accepted ht htime haccept
            (Bool.not_eq_true _ ▸ hopened) hcurrent
        · refine hfollows (fun m hm => ?_) _ (h.setLink ((h.sockets n).openedLate haccept hcurrent)
            (fun _ => rfl) id) rfl
          rw [ht] at hm
          cases hm
          exact hcurrent
    · rename_i n ht
      split_ifs
      · exact hfollows (fun m hm => by rw [ht] at hm; cases hm) w h rfl
      · exact h
    · rename_i hopened _
      exact hfollows (fun m hm => absurd hm (hopened m)) w h rfl
  · exact h

end Looper

/-! ### Readers and threads -/

/-- The log grows by one entry. -/
theorem record_log (w : World Network) (entry : Option Record) {record : Record}
    (hrecord : record ∈ (w.record entry).log) : record ∈ w.log ∨ entry = some record := by
  rcases List.mem_append.mp hrecord with hold | hnew
  · exact .inl hold
  · exact .inr (Option.mem_toList.mp hnew)

/-- The thread of a command that has just been handed on. -/
theorem Agrees.threaded (h : w.Agrees) {n : Nat} {command : Command}
    (hreader : (w.links n).reader = .contexting command) :
    Threaded w.client w.server (w.links n)
      ⟨command, ⟨n, w.client.registration.provisionalConnectionIdOf n⟩, .begun⟩ := by
  have hsocket := h.sockets n
  have hinbound : (w.links n).inbound = .command command :: (w.links n).down := by
    rw [Link.inbound, hreader]
    rfl
  have haddressed : (w.server.handler (.own n)).Addressed command :=
    hsocket.wrote (.command command) (hinbound ▸ List.mem_cons_self)
  have hopened := hsocket.opened_of_addressed haddressed
  refine ⟨haddressed, hopened, fun hintact hactive => ?_⟩
  -- a socket that is still the current one is registered
  have hn := hsocket.current hopened (hactive.resolve_left fun hbegun => hbegun rfl)
  obtain ⟨-, ⟨standing, hstands, hheard⟩, -⟩ := hsocket.agreed hn hintact
  rw [hinbound] at hheard
  obtain rfl := hheard.flows.1 command rfl
  exact hstands.provisionalConnectionIdOf hn

/-- A reader does its next piece of work on a frame. -/
theorem Agrees.onMessage (h : w.Agrees) (n : Nat) :
    (({ w with client := (w.client.onMessage n (!(w.links n).lost) (w.links n).reader).1 }.setLink n
      { w.links n with
        reader := (w.client.onMessage n (!(w.links n).lost) (w.links n).reader).2.1 }).record
          (w.client.onMessage n (!(w.links n).lost) (w.links n).reader).2.2).Agrees := by
  have hsocket := h.sockets n
  have hreads := w.client.onMessage_reads n (!(w.links n).lost) (w.links n).reader
  obtain ⟨r, threads, hclient, hr, -, -, hthreads⟩ := hreads.client
  have hlinks : ∀ k, ((w.setLink n { w.links n with
      reader :=
        (w.client.onMessage n (!(w.links n).lost) (w.links n).reader).2.1 }).links k).opened =
        (w.links k).opened ∧ ((w.setLink n { w.links n with
      reader := (w.client.onMessage n (!(w.links n).lost) (w.links n).reader).2.1 }).links k).lost =
        (w.links k).lost := by
    intro k
    rw [setLink_links]
    split_ifs with hk
    · rw [hk]
      exact ⟨rfl, rfl⟩
    · exact ⟨rfl, rfl⟩
  have hgrows : w.Grows (({ w with
      client := (w.client.onMessage n (!(w.links n).lost) (w.links n).reader).1 }.setLink n
        { w.links n with
          reader := (w.client.onMessage n (!(w.links n).lost) (w.links n).reader).2.1 }).record
            (w.client.onMessage n (!(w.links n).lost) (w.links n).reader).2.2) := by
    refine ⟨fun _ => .refl _ _, fun k hk => (hlinks k).1.trans hk,
      fun k hk => (hlinks k).2.symm.trans hk, fun k _ hk => ?_⟩
    rw [hclient] at hk
    exact hk
  refine h.grow hgrows ?_ h.sound (fun k => ?_) (fun thread hthread => ?_) (fun _ => .inl)
    fun record hrecord => ?_
  · show (w.client.onMessage n (!(w.links n).lost) (w.links n).reader).1.Aligned
    rw [hclient]
    exact (h.aligned.withRegistration hr).withThreads threads
  · show Socketed _ _ _ ((w.setLink n _).links k)
    rw [setLink_links]
    split_ifs with hk
    · rw [hk]
      exact hsocket.onMessage
    · exact (h.sockets k).onMessage_other h.aligned hk
  · rw [hclient] at hthread
    rcases hthreads thread hthread with hold | ⟨command, hreader, -, rfl⟩
    · exact .inl hold
    · exact .inr (hgrows.threaded (h.threaded hreader))
  · rcases record_log _ _ hrecord with hold | hnew
    · exact .inl hold
    · obtain ⟨command, hframe, hkind⟩ := hreads.record record hnew
      have haddressed : (w.server.handler (.own n)).Addressed command :=
        hsocket.wrote (.command command) (List.mem_append_left _ (by rw [hframe]; simp))
      rcases hkind with rfl | rfl
      · exact .inr haddressed
      · refine .inr (Bool.eq_false_iff.mpr fun hcurrent => ?_)
        -- a registered socket with an intact connection would have let it through
        simp only [Client.current, Bool.and_eq_true, decide_eq_true_eq, Bool.not_eq_true']
          at hcurrent
        obtain ⟨hannounced, ⟨standing, hstands, hheard⟩, hmatching⟩ :=
          hsocket.agreed hcurrent.1.2 hcurrent.2
        exact (hheard.onMessage (!(w.links n).lost) hcurrent.1.2 hstands
          (fun hdevice => hannounced.sent.mpr (.inl hdevice))
          (fun frame hframe => hsocket.wrote frame (List.mem_append_left _ (by rw [hframe]; simp)))
          hmatching).2.2 _ _ _ hnew

/-- A step of a reader. -/
theorem Agrees.read (h : w.Agrees) (n : Nat) : (w.read n).Agrees := by
  rw [World.read]
  dsimp only
  split
  · rename_i hidle
    split
    · exact h
    · rename_i frame down hdown
      exact h.setLink ((h.sockets n).take h.aligned hidle hdown) id id
  · exact h.onMessage n

/-- The result of a thread is for the target of its command. -/
theorem Agrees.genuine (h : w.Agrees) {thread : PowerThread} (hthread : thread ∈ w.client.threads)
    (hstage : thread.stage ≠ .begun) (hintact : (w.links thread.context.socket).lost = false) :
    Genuine w.client.resolver.visibleState (w.server.handler (.own thread.context.socket))
      (Client.powerResult thread).2 := by
  have hthreaded := h.threads thread hthread
  intro target htarget
  obtain rfl := Option.some.inj htarget
  refine ⟨hthreaded.addressed.serves, ?_, ?_⟩
  · rw [← hthreaded.addressed.connectionId, ← hthreaded.context hintact (.inl hstage)]
  · dsimp only [Client.powerResult]
    split_ifs <;> rfl

/-- What becomes of a thread. -/
theorem Agrees.setThread (h : w.Agrees) {i : Nat} {thread : Option PowerThread}
    (hthread : ∀ thread', thread = some thread' →
      Threaded w.client w.server (w.links thread'.context.socket) thread') :
    { w with client := w.client.setThread i thread }.Agrees := by
  have hthreads : ∀ threads : List PowerThread, (∀ later ∈ threads, later ∈ w.client.threads ∨
      thread = some later) → { w with client := { w.client with threads := threads } }.Agrees := by
    intro threads hmem
    refine h.grow ⟨fun _ => .refl _ _, fun _ => id, fun _ => id, fun _ _ => id⟩
      (h.aligned.withThreads threads) h.sound (fun n => (h.sockets n).withThreads threads)
      (fun later hlater => (hmem later hlater).imp_right fun hnew => ?_) (fun _ => .inl)
      fun _ => .inl
    obtain ⟨haddressed, hopened, hcontext⟩ := hthread later hnew
    exact ⟨haddressed, hopened, hcontext⟩
  cases thread with
  | none => exact hthreads _ fun later hlater => .inl (List.mem_of_mem_eraseIdx hlater)
  | some thread' =>
    refine hthreads _ fun later hlater => ?_
    exact (List.mem_or_eq_of_mem_set hlater).imp_right fun heq => congrArg some heq.symm

/-- An entry of the log that holds may be written. -/
theorem Agrees.record (h : w.Agrees) {entry : Option Record}
    (hentry : ∀ record, entry = some record → record.Holds w.server) : (w.record entry).Agrees :=
  h.grow ⟨fun _ => .refl _ _, fun _ => id, fun _ => id, fun _ _ => id⟩ h.aligned h.sound h.sockets
    (fun _ => .inl) (fun _ => .inl)
    fun _ hrecord => (record_log w entry hrecord).imp_right (hentry _)

/-- A step of a power thread. -/
theorem Agrees.power (h : w.Agrees) (i : Nat) (fails accepted : Bool) :
    (w.power i fails accepted).Agrees := by
  rw [World.power]
  cases hthread : w.client.threads[i]? with
  | none => exact h
  | some thread =>
    have hmem := List.mem_of_getElem? hthread
    have hthreaded := h.threads thread hmem
    obtain ⟨hnext, hsent, hrecord⟩ := w.client.powerStep_cases thread fails
      (w.accepts thread.context.socket accepted)
    dsimp only
    generalize w.client.powerStep thread fails (w.accepts thread.context.socket accepted) = stepped
      at *
    obtain ⟨thread', sent, entry⟩ := stepped
    have hset : { w with client := w.client.setThread i thread' }.Agrees := by
      refine h.setThread fun later hlater => ?_
      obtain ⟨⟨stage, rfl⟩, hactive⟩ := hnext later hlater
      exact ⟨hthreaded.addressed, hthreaded.opened, fun hintact _ =>
        hthreaded.context hintact hactive⟩
    have hvisible : (w.client.setThread i thread').resolver = w.client.resolver := by
      cases thread' <;> rfl
    have htransmit : ({ w with client := w.client.setThread i thread' }.transmit sent).Agrees := by
      cases sent with
      | none => exact hset
      | some sent =>
        obtain ⟨rfl, hstage⟩ := hsent sent rfl
        refine hset.transmit rfl fun hintact => ?_
        rw [hvisible]
        exact h.genuine hmem hstage hintact
    refine htransmit.record fun record heq => ?_
    rw [hrecord record heq, transmit_server]
    exact hthreaded.addressed

end World

end StylyMdm.Handshake
