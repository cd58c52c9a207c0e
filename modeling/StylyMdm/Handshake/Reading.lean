import StylyMdm.Handshake.Sockets

/-!
# The readers and the threads of the client

A reader takes several looks at the registration before it hands a command on, and the client may
let go of the socket between any two of them. `Reads` says what a step of it can do. As long as the
socket is registered and its connection intact, the reader finds the standing that the command is
for at each look, so no command of the server is ignored (`Heard.onMessage`).

What a reader has in hand is the front of what is under way, so the standing it needs is the one of
`Handshake.Downstream` for that frame. When the client has let go of the socket in between, a look
fails and the command is ignored, which is right, since the connection it came on is not current any
more. A thread of `executePowerControl` remembers the connection its command is for and looks again
before each thing it sends (`Client.powerStep_cases`).
-/

namespace StylyMdm.Handshake

open Text Registry Client.Identity Client.Connection

variable {Network : Type*} {c : Client Network} {n : Nat} {intact : Bool} {reader : Reader}

/-! ### What a step can do -/

/-- A step of the reader of `n`. -/
structure Client.Reads (c : Client Network) (n : Nat) (intact : Bool) (reader : Reader) : Prop where
  client : ∃ r threads, (c.onMessage n intact reader).1 =
      { c with registration := r, threads := threads } ∧
    r.socket = c.registration.socket ∧ r.sent = c.registration.sent ∧
    (c.registration.socket ≠ some n → r = c.registration) ∧
    ∀ thread ∈ threads, thread ∈ c.threads ∨
      ∃ command, reader = .contexting command ∧ command.type.isPower = true ∧
        thread = ⟨command, ⟨n, c.registration.provisionalConnectionIdOf n⟩, .begun⟩
  frame : (c.onMessage n intact reader).2.1.frame = reader.frame ∨
    (c.onMessage n intact reader).2.1 = .idle
  record : ∀ record, (c.onMessage n intact reader).2.2 = some record →
    ∃ command, reader.frame = some (.command command) ∧
      (record = .handled n command ∨ record = .ignored n command (c.current n intact))

/-- A step that leaves the client as it is. -/
theorem Client.Reads.of_eq {reader' : Reader} {entry : Option Record}
    (heq : c.onMessage n intact reader = (c, reader', entry))
    (hframe : reader'.frame = reader.frame ∨ reader' = .idle)
    (hrecord : ∀ record, entry = some record → ∃ command, reader.frame = some (.command command) ∧
      (record = .handled n command ∨ record = .ignored n command (c.current n intact))) :
    c.Reads n intact reader where
  client := ⟨c.registration, c.threads, congrArg Prod.fst heq, rfl, rfl, fun _ => rfl,
    fun _ hthread => .inl hthread⟩
  frame := by
    rw [heq]
    exact hframe
  record record hsome := by
    rw [heq] at hsome
    exact hrecord record hsome

/-- A step that notes what was acknowledged. -/
theorem Client.Reads.of_registration {r : ConnectionRegistration Nat}
    (heq : c.onMessage n intact reader = ({ c with registration := r }, .idle, none))
    (hsocket : r.socket = c.registration.socket) (hsent : r.sent = c.registration.sent)
    (hforeign : c.registration.socket ≠ some n → r = c.registration) : c.Reads n intact reader where
  client := ⟨r, c.threads, congrArg Prod.fst heq, hsocket, hsent, hforeign,
    fun _ hthread => .inl hthread⟩
  frame := by
    rw [heq]
    exact .inr rfl
  record record hsome := by
    rw [heq] at hsome
    cases hsome

/-- `onMessage` does what `Reads` says. -/
theorem Client.onMessage_reads (c : Client Network) (n : Nat) (intact : Bool) (reader : Reader) :
    c.Reads n intact reader := by
  cases reader with
  | idle => exact .of_eq rfl (.inl rfl) (by simp)
  | admitted frame =>
    cases frame with
    | registered =>
      refine .of_registration rfl ?_ ?_ fun hforeign => ?_
      · rw [ConnectionRegistration.acknowledge]
        split_ifs <;> rfl
      · rw [ConnectionRegistration.acknowledge]
        split_ifs <;> rfl
      · rw [ConnectionRegistration.acknowledge, if_pos (.inl hforeign)]
    | registeredProvisional connectionId =>
      refine .of_registration rfl ?_ ?_ fun hforeign => ?_
      · rw [ConnectionRegistration.acknowledgeProvisional]
        split_ifs <;> rfl
      · rw [ConnectionRegistration.acknowledgeProvisional]
        split_ifs <;> rfl
      · rw [ConnectionRegistration.acknowledgeProvisional, if_pos (.inl hforeign)]
    | error => exact .of_eq rfl (.inr rfl) (by simp)
    | command command =>
      by_cases hacknowledged : c.registration.isAcknowledged n = true
      · exact .of_eq (if_pos hacknowledged) (.inl rfl) (by simp)
      · refine .of_eq (if_neg hacknowledged) (.inr rfl) fun record hrecord => ?_
        exact ⟨command, rfl, .inr (Option.some.inj hrecord).symm⟩
  | acknowledged command =>
    by_cases hrefused : c.registration.isProvisional n ∧ command.type.isPower = false
    · refine .of_eq (if_pos hrefused) (.inr rfl) fun record hrecord => ?_
      exact ⟨command, rfl, .inr (Option.some.inj hrecord).symm⟩
    · exact .of_eq (if_neg hrefused) (.inl rfl) (by simp)
  | restricted command =>
    by_cases hprovisional : c.registration.isProvisional n = true
    · exact .of_eq (if_pos hprovisional) (.inl rfl) (by simp)
    · exact .of_eq (if_neg hprovisional) (.inl rfl) (by simp)
  | matching command =>
    by_cases hother : some (command.connectionId.getD []) ≠
        c.registration.provisionalConnectionIdOf n
    · refine .of_eq (if_pos hother) (.inr rfl) fun record hrecord => ?_
      exact ⟨command, rfl, .inr (Option.some.inj hrecord).symm⟩
    · exact .of_eq (if_neg hother) (.inl rfl) (by simp)
  | routing command =>
    have hhandled : ∀ record : Record, some (.handled n command) = some record →
        ∃ command', (Reader.routing command).frame = some (.command command') ∧
          (record = .handled n command' ∨ record = .ignored n command' (c.current n intact)) :=
      fun record hrecord => ⟨command, rfl, .inl (Option.some.inj hrecord).symm⟩
    by_cases hblank : command.type = .other []
    · exact .of_eq (if_pos hblank) (.inr rfl) (by simp)
    · by_cases hpush : command.type.isPush = true
      · exact .of_eq ((if_neg hblank).trans (if_pos hpush)) (.inr rfl) hhandled
      · by_cases hacknowledged : c.registration.isAcknowledged n = true
        · exact .of_eq ((if_neg hblank).trans ((if_neg hpush).trans (if_pos hacknowledged)))
            (.inl rfl) (by simp)
        · exact .of_eq ((if_neg hblank).trans ((if_neg hpush).trans (if_neg hacknowledged)))
            (.inr rfl) hhandled
  | contexting command =>
    refine ⟨?_, .inr rfl, fun record hrecord => ⟨command, rfl, .inl (Option.some.inj hrecord).symm⟩⟩
    by_cases hpower : command.type.isPower = true
    · refine ⟨c.registration, _, if_pos hpower, rfl, rfl, fun _ => rfl, fun thread hthread => ?_⟩
      rcases List.mem_append.mp hthread with hold | hnew
      · exact .inl hold
      · exact .inr ⟨command, rfl, hpower, List.mem_singleton.mp hnew⟩
    · exact ⟨c.registration, c.threads, if_neg hpower, rfl, rfl, fun _ => rfl,
        fun _ hthread => .inl hthread⟩

/-! ### The standing of a registered socket -/

namespace ConnectionRegistration

variable {r : ConnectionRegistration Nat} {standing : Standing}

/-- The registration is acknowledged when the frames read so far give any standing. -/
theorem Stands.isAcknowledged (hstands : r.Stands standing) (hn : r.socket = some n) :
    r.isAcknowledged n = true ↔ standing ≠ .unregistered := by
  rw [ConnectionRegistration.isAcknowledged, hn, decide_eq_true rfl, Bool.true_and,
    decide_eq_true_iff]
  cases standing with
  | unregistered => rw [show r.acknowledgement = _ from hstands]; simp
  | provisional connectionId => rw [hstands.1]; simp
  | canonical => rw [show r.acknowledgement = _ from hstands]; simp

/-- And provisional when they give a connection id. -/
theorem Stands.isProvisional (hstands : r.Stands standing) (hn : r.socket = some n) :
    r.isProvisional n = true ↔ ∃ connectionId, standing = .provisional connectionId := by
  rw [ConnectionRegistration.isProvisional, hn, decide_eq_true rfl, Bool.true_and,
    decide_eq_true_iff]
  cases standing with
  | unregistered => rw [show r.acknowledgement = _ from hstands]; simp
  | provisional connectionId => rw [hstands.1]; simp
  | canonical => rw [show r.acknowledgement = _ from hstands]; simp

/-- The context of a command has the connection id that the command is for. -/
theorem Stands.provisionalConnectionIdOf {command : Command} (hstands : r.Stands command.standing)
    (hn : r.socket = some n) : r.provisionalConnectionIdOf n = command.connectionId := by
  have hprovisional := hstands.isProvisional hn
  rw [ConnectionRegistration.provisionalConnectionIdOf]
  rw [Command.standing] at hstands hprovisional
  cases hid : command.connectionId with
  | none =>
    rw [hid] at hprovisional
    rw [if_neg fun htrue => by simpa using hprovisional.mp htrue]
  | some connectionId =>
    rw [hid] at hstands hprovisional
    rw [if_pos (hprovisional.mpr ⟨connectionId, rfl⟩), hstands.2]

/-- A connection id is not blank. -/
theorem isBlank_of_isHex {connectionId : Str} (h : World.isHex connectionId = true) :
    isBlank connectionId = false := by
  rw [World.isHex, Bool.and_eq_true, decide_eq_true_iff, List.all_eq_true] at h
  rw [isBlank, List.all_eq_false]
  obtain ⟨first, rest, rfl⟩ := List.exists_cons_of_ne_nil h.1
  have hhex := h.2 first List.mem_cons_self
  refine ⟨first, List.mem_cons_self, ?_⟩
  simp only [isLowerHex, Bool.or_eq_true, Bool.and_eq_true, decide_eq_true_eq] at hhex
  simp only [isWhitespace, Bool.or_eq_true, Bool.and_eq_true, decide_eq_true_eq]
  omega

end ConnectionRegistration

/-- A command is meant for a device that has been registered. -/
theorem Command.standing_ne_unregistered (command : Command) :
    command.standing ≠ .unregistered := by
  rw [Command.standing]
  cases command.connectionId <;> simp

/-- **The reader of a registered socket**, if the connection is intact: it follows the standing, and
ignores no command. -/
theorem Heard.onMessage (intact : Bool) {s : Server} {ws : Socket} {h : Handler}
    {down : List Down} {standing : Standing}
    (hheard : Heard s ws h (reader.frame.toList ++ down) standing)
    (hn : c.registration.socket = some n) (hstands : c.registration.Stands standing)
    (hsent : h.deviceId ≠ none → c.registration.sent = true)
    (hwrote : ∀ frame, reader.frame = some frame → h.Wrote frame)
    (hmatching : ∀ command, reader = .matching command → command.connectionId ≠ none) :
    (∃ standing', (c.onMessage n intact reader).1.registration.Stands standing' ∧
        Heard s ws h ((c.onMessage n intact reader).2.1.frame.toList ++ down) standing') ∧
      (∀ command, (c.onMessage n intact reader).2.1 = .matching command →
        command.connectionId ≠ none) ∧
      ∀ socket command current,
        (c.onMessage n intact reader).2.2 ≠ some (.ignored socket command current) := by
  have hcurrent : ∀ command, reader.frame = some (.command command) →
      standing = command.standing := by
    intro command hframe
    rw [hframe] at hheard
    exact hheard.flows.1 command rfl
  cases reader with
  | idle => exact ⟨⟨standing, hstands, hheard⟩, by simp [Client.onMessage],
      by simp [Client.onMessage]⟩
  | admitted frame =>
    have hread := hheard.read (hwrote frame rfl)
    cases frame with
    | registered =>
      have hacknowledge : c.registration.acknowledge n =
          { c.registration with
            acknowledgement := .canonical, provisionalConnectionId := none } := by
        rw [ConnectionRegistration.acknowledge, if_neg]
        rintro (hforeign | hunsent)
        · exact hforeign hn
        · exact Bool.false_ne_true (hunsent.symm.trans (hsent (hwrote .registered rfl)))
      refine ⟨⟨_, ?_, hread⟩, by simp [Client.onMessage], by simp [Client.onMessage]⟩
      rw [Client.onMessage, hacknowledge, Standing.after_registered]
      exact rfl
    | registeredProvisional connectionId =>
      have hhex := (hwrote (.registeredProvisional connectionId) rfl).2
      refine ⟨⟨_, ?_, hread⟩, by simp [Client.onMessage], by simp [Client.onMessage]⟩
      rw [Client.onMessage, ConnectionRegistration.acknowledgeProvisional]
      by_cases hcanonical : standing = .canonical
      · rw [hcanonical] at hstands ⊢
        rw [if_pos (.inr (.inr hstands))]
        exact hstands
      · have hnot : c.registration.acknowledgement ≠ .canonical := by
          cases standing with
          | unregistered => rw [show c.registration.acknowledgement = _ from hstands]; simp
          | provisional connectionId => rw [hstands.1]; simp
          | canonical => exact absurd rfl hcanonical
        rw [if_neg (by simp [hn, ConnectionRegistration.isBlank_of_isHex hhex, hnot]),
          Standing.after_registeredProvisional hcanonical]
        exact ⟨rfl, rfl⟩
    | error => exact ⟨⟨_, by rwa [Standing.after_error], hread⟩, by simp [Client.onMessage],
        by simp [Client.onMessage]⟩
    | command command =>
      have hacknowledged := (hstands.isAcknowledged hn).mpr
        (hcurrent command rfl ▸ command.standing_ne_unregistered)
      rw [Client.onMessage, if_pos hacknowledged]
      exact ⟨⟨standing, hstands, hheard⟩, by simp, by simp⟩
  | acknowledged command =>
    have hallowed : ¬(c.registration.isProvisional n = true ∧ command.type.isPower = false) := by
      rintro ⟨hprovisional, hpower⟩
      obtain ⟨connectionId, hstanding⟩ := (hstands.isProvisional hn).mp hprovisional
      have haddressed : h.Addressed command := hwrote (.command command) rfl
      rw [hcurrent command rfl, Command.standing] at hstanding
      refine Bool.false_ne_true (hpower.symm.trans (haddressed.power fun hnone => ?_))
      rw [hnone] at hstanding
      cases hstanding
    rw [Client.onMessage, if_neg hallowed]
    exact ⟨⟨standing, hstands, hheard⟩, by simp, by simp⟩
  | restricted command =>
    rw [Client.onMessage]
    split_ifs with hprovisional
    · refine ⟨⟨standing, hstands, hheard⟩, fun command' heq hnone => ?_, by simp⟩
      cases heq
      obtain ⟨connectionId, hstanding⟩ := (hstands.isProvisional hn).mp hprovisional
      rw [hcurrent command rfl, Command.standing, hnone] at hstanding
      cases hstanding
    · exact ⟨⟨standing, hstands, hheard⟩, by simp, by simp⟩
  | matching command =>
    have hsame := (hcurrent command rfl ▸ hstands).provisionalConnectionIdOf hn
    obtain ⟨connectionId, hid⟩ := Option.ne_none_iff_exists'.mp (hmatching command rfl)
    rw [Client.onMessage, if_neg (by rw [hsame, hid]; simp)]
    exact ⟨⟨standing, hstands, hheard⟩, by simp, by simp⟩
  | routing command =>
    have hread := hheard.read (hwrote (.command command) rfl)
    rw [Standing.after_command] at hread
    rw [Client.onMessage]
    split_ifs with hblank hpush hacknowledged
    · exact ⟨⟨standing, hstands, hread⟩, by simp, by simp⟩
    · exact ⟨⟨standing, hstands, hread⟩, by simp, by simp⟩
    · exact ⟨⟨standing, hstands, hheard⟩, by simp, by simp⟩
    · exact ⟨⟨standing, hstands, hread⟩, by simp, by simp⟩
  | contexting command =>
    have hread := hheard.read (hwrote (.command command) rfl)
    rw [Standing.after_command] at hread
    refine ⟨⟨standing, ?_, hread⟩, by simp [Client.onMessage], by simp [Client.onMessage]⟩
    rw [Client.onMessage, Client.onCommand]
    split_ifs <;> exact hstands

namespace Socketed

variable {s : Server} {link : Link} {m : Nat}

/-- A reader takes the next frame, or passes over it. -/
theorem take {frame : Down} {down : List Down} (h : Socketed c s n link) (hc : c.Aligned)
    (hidle : link.reader = .idle) (hdown : link.down = frame :: down) :
    Socketed c s n { link with
      down := down
      reader := if c.manager.webSocket = some n then .admitted frame else .idle } := by
  have hinbound : link.inbound = frame :: down := by
    rw [Link.inbound, hidle, hdown]
    rfl
  have hwrote := h.wrote
  rw [hinbound] at hwrote
  split_ifs with hcurrent
  · refine ⟨h.opened, h.current, h.accepted, h.asked, h.fresh, h.upstream, hwrote,
      fun hn hintact => ?_⟩
    obtain ⟨hannounced, hheard, -⟩ := h.agreed hn hintact
    rw [hinbound] at hheard
    exact ⟨hannounced, hheard, by simp⟩
  · exact ⟨h.opened, h.current, h.accepted, h.asked, h.fresh, h.upstream,
      fun later hlater => hwrote later (List.mem_cons_of_mem frame hlater),
      fun hn => absurd (hc.registered n hn).1 hcurrent⟩

/-- A reader takes a step with the frame it has. -/
theorem onMessage (h : Socketed c s n link) :
    Socketed (c.onMessage n intact link.reader).1 s n
      { link with reader := (c.onMessage n intact link.reader).2.1 } := by
  have hreads := c.onMessage_reads n intact link.reader
  have hwrote : ∀ frame ∈ (c.onMessage n intact link.reader).2.1.frame.toList ++ link.down,
      (s.handler (.own n)).Wrote frame := by
    intro frame hframe
    refine h.wrote frame ?_
    rcases List.mem_append.mp hframe with hreader | hdown
    · rcases hreads.frame with hsame | hidle
      · rw [hsame] at hreader
        exact List.mem_append_left _ hreader
      · rw [hidle] at hreader
        cases hreader
    · exact List.mem_append_right _ hdown
  obtain ⟨r, threads, hclient, hsocket, hsent, -, -⟩ := hreads.client
  rw [hclient]
  refine ⟨fun hn => h.opened (hsocket.symm.trans hn),
    fun hopened hn => hsocket.trans (h.current hopened hn), h.accepted, h.asked, h.fresh,
      h.upstream,
    hwrote, fun hn hintact => ?_⟩
  have hn₀ := hsocket.symm.trans hn
  obtain ⟨hannounced, ⟨standing, hstands, hheard⟩, hmatching⟩ := h.agreed hn₀ hintact
  obtain ⟨hheard', hmatching', -⟩ := hheard.onMessage intact hn₀ hstands
    (fun hdevice => hannounced.sent.mpr (.inl hdevice))
    (fun frame hframe => h.wrote frame (List.mem_append_left _ (by rw [hframe]; simp))) hmatching
  rw [hclient] at hheard'
  refine ⟨?_, hheard', hmatching'⟩
  rw [show Client.registration _ = r from rfl, hsent]
  exact hannounced

/-- Only the reader of its own socket can change what a socket is to the client. -/
theorem onMessage_other {reader : Reader} (h : Socketed c s m link) (hc : c.Aligned)
    (hne : m ≠ n) : Socketed (c.onMessage n intact reader).1 s m link := by
  obtain ⟨r, threads, hclient, hsocket, -, hforeign, -⟩ :=
    (c.onMessage_reads n intact reader).client
  rw [hclient]
  by_cases hn : c.registration.socket = some n
  · exact h.elsewhere ((hc.withRegistration hsocket).withThreads threads) rfl rfl
      (hsocket.trans hn) hne
  · rw [hforeign hn]
    exact h.withThreads threads

end Socketed

/-! ### Threads -/

/-- What a thread that reboots the device or powers it off can do in one step: after its first look
at the context, it has found its socket the current one. -/
theorem Client.powerStep_cases (c : Client Network) (thread : PowerThread) (fails accepted : Bool) :
    (∀ thread', (c.powerStep thread fails accepted).1 = some thread' →
      (∃ stage, thread' = { thread with stage := stage }) ∧
        (thread.stage ≠ .begun ∨ c.manager.webSocket = some thread.context.socket)) ∧
    (∀ sent, (c.powerStep thread fails accepted).2.1 = some sent →
      sent = powerResult thread ∧ thread.stage ≠ .begun) ∧
    ∀ record, (c.powerStep thread fails accepted).2.2 = some record →
      record = .invoked thread.context.socket thread.command := by
  have hactive : c.isActive thread.context = true →
      c.manager.webSocket = some thread.context.socket := by
    rw [isActive, Bool.and_eq_true, Bool.and_eq_true, decide_eq_true_iff]
    exact fun hand => hand.1.1
  rw [powerStep]
  cases hstage : thread.stage with
  | begun =>
    by_cases hcontext : c.isActive thread.context = true
    · simp only [if_pos hcontext]
      refine ⟨fun thread' heq => ?_, by simp, by simp⟩
      exact ⟨⟨_, (Option.some.inj heq).symm⟩, .inr (hactive hcontext)⟩
    · simp only [if_neg hcontext]
      exact ⟨by simp, by simp, by simp⟩
  | accepting =>
    dsimp only
    split_ifs
    · refine ⟨fun thread' heq => ?_, fun sent heq => ?_, by simp⟩
      · exact ⟨⟨_, (Option.some.inj heq).symm⟩, .inl (by simp)⟩
      · exact ⟨(Option.some.inj heq).symm, by simp⟩
    · exact ⟨by simp, by simp, by simp⟩
  | flushing =>
    dsimp only
    split_ifs
    · refine ⟨fun thread' heq => ?_, by simp, by simp⟩
      exact ⟨⟨_, (Option.some.inj heq).symm⟩, .inl (by simp)⟩
    · refine ⟨fun thread' heq => ?_, by simp, fun record heq => (Option.some.inj heq).symm⟩
      exact ⟨⟨_, (Option.some.inj heq).symm⟩, .inl (by simp)⟩
    · exact ⟨by simp, by simp, by simp⟩
  | invoked =>
    dsimp only
    split_ifs
    · refine ⟨fun thread' heq => ?_, by simp, by simp⟩
      exact ⟨⟨_, (Option.some.inj heq).symm⟩, .inl (by simp)⟩
    · exact ⟨by simp, by simp, by simp⟩
  | failing =>
    dsimp only
    split_ifs
    · exact ⟨by simp, fun sent heq => ⟨(Option.some.inj heq).symm, by simp⟩, by simp⟩
    · exact ⟨by simp, by simp, by simp⟩

end StylyMdm.Handshake
